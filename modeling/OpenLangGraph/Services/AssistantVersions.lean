import OpenLangGraph.Services.AssistantService
import OpenLangGraph.Foundation.Transition

/-!
# The row of an assistant and its version

The row of an assistant agrees with the version that its number points to, and an operation that
raises leaves both tables as they were: both hold along a run exactly as long as every operation of
it meets `keeps`.

## Where they part

* An update and a rollback write every column of the version but the metadata.
* A creation commits the assistant before its version, an update the version before the assistant;
  what has been committed stays when the operation then fails, at a statement, at the constraint on
  the setup, or at the response, which has no place for a missing context.

## Main definitions

* `Operation`, `perform`, `step` — the operations, and what they do to the tables
* `Consistent`, `Preserves`, `Holds` — what is asked of the tables, and of an operation
* `keeps` — the operations that do not break it

## Main results

* `holds_iff` — one operation
* `versions_agree_iff` — runs
-/

namespace OpenLangGraph

namespace AssistantService

open PyString Transition UnitOfWork

variable {ν : Type} [DecidableEq ν]

/-! ### Operations -/

/-- An operation, and the statement of it that fails. -/
inductive Operation (ν : Type)
  | create (request : AssistantCreate ν) (userIdentity : Str) (orgId : Option Str) (uuid : Str)
      (now : ℕ) (fault : Option (Fault CreatePoint))
  | update (assistantId : Str) (request : AssistantUpdate ν) (userIdentity : Str) (now : ℕ)
      (fault : Option (Fault UpdatePoint))
  | setLatest (assistantId : Str) (version : ℤ) (userIdentity : Str) (now : ℕ)
      (fault : Option (Fault LatestPoint))
  | delete (assistantId userIdentity : Str) (fault : Option (Fault DeletePoint))

structure Outcome (ν : Type) where
  tables : AssistantTables ν
  raises : Bool

/-- What is left of a program. -/
def outcome {σ β : Type} [DecidableEq σ] (t : AssistantTables ν) (program : AssistantProgram ν σ β)
    (fault : Option (Fault σ)) : Outcome ν :=
  let effects := program.run fault (.open t)
  ⟨effects.session.committed, !effects.result.isOk⟩

def perform (setting : Setting ν) (t : AssistantTables ν) : Operation ν → Outcome ν
  | .create request userIdentity orgId uuid now fault =>
    outcome t (createAssistant setting request userIdentity orgId uuid now) fault
  | .update assistantId request userIdentity now fault =>
    outcome t (updateAssistant setting assistantId request userIdentity now) fault
  | .setLatest assistantId version userIdentity now fault =>
    outcome t (setAssistantLatest assistantId version userIdentity now) fault
  | .delete assistantId userIdentity fault =>
    outcome t (deleteAssistant assistantId userIdentity) fault

def step (setting : Setting ν) (t : AssistantTables ν) (operation : Operation ν) :
    Option (AssistantTables ν) :=
  some (perform setting t operation).tables

/-! ### What is asked -/

/-- The two rows have the same content. -/
structure SameContent (a : Assistant ν) (v : AssistantVersion ν) : Prop where
  name : v.name = a.name
  description : v.description = a.description
  graphId : v.graphId = a.graphId
  config : v.config = a.config
  context : v.context = a.context
  metadata : v.metadata = a.metadata

/-- The version that the row of an assistant points to has its content. -/
def Agrees (t : AssistantTables ν) (a : Assistant ν) : Prop :=
  ∃ v, t.versions.find? (a.assistantId, a.version) = some v ∧ SameContent a v

def Consistent (t : AssistantTables ν) : Prop := ∀ a ∈ t.assistants.rows, Agrees t a

/-- The tables are consistent afterwards; and after an error, they are as they were. -/
structure Preserves (t : AssistantTables ν) (o : Outcome ν) : Prop where
  consistent : Consistent o.tables
  unchanged : o.raises = true → o.tables = t

def Holds (setting : Setting ν) (t : AssistantTables ν) (operation : Operation ν) : Prop :=
  Preserves t (perform setting t operation)

/-! ### The condition -/

/-- A failure of the statement leaves the tables as they were: nothing has been committed. -/
def CreatePoint.leaves (durable : Bool) : CreatePoint → Bool
  | .readingExisting | .insertingAssistant => true
  | .committingAssistant => !durable
  | .refreshing | .insertingVersion | .committingVersion => false

def UpdatePoint.leaves (durable : Bool) : UpdatePoint → Bool
  | .readingAssistant | .readingMaxVersion | .insertingVersion => true
  | .committingVersion => !durable
  | .updatingAssistant | .committingAssistant | .reloading => false

def LatestPoint.leaves (durable : Bool) : LatestPoint → Bool
  | .readingAssistant | .readingVersion | .updatingAssistant => true
  | .committingAssistant => !durable
  | .reloading => false

def DeletePoint.leaves (durable : Bool) : DeletePoint → Bool
  | .readingAssistant | .deletingAssistant => true
  | .committingDeletion => !durable

/-- A constraint refuses a new assistant. -/
def AssistantTables.refuses (t : AssistantTables ν) (a : Assistant ν) : Bool :=
  t.isTaken a || t.assistants.rows.any fun b => b.assistantId = a.assistantId

/-- A creation comes to nothing, or it fails at nothing and the new assistant has a context. -/
def createKeeps (t : AssistantTables ν) (a : Assistant ν) (fault : Option (Fault CreatePoint)) :
    Bool :=
  (t.existing? a).isSome || t.refuses a ||
    match fault with
    | none => a.context.isSome
    | some f => f.point.leaves f.durable

/-- An update of an assistant fails at nothing, keeps the metadata and sets a context, and no other
assistant has the new setup. -/
def updateKeeps (t : AssistantTables ν) (a : Assistant ν) (v : AssistantVersion ν)
    (now : ℕ) (fault : Option (Fault UpdatePoint)) : Bool :=
  match fault with
  | none => !t.isTaken (a.withVersion v now) && v.context.isSome && v.metadata = a.metadata
  | some f => f.point.leaves f.durable

/-- A rollback is refused, or it changes nothing, or it fails at nothing, and the version has the
metadata of the assistant, and a context. -/
def latestKeeps (t : AssistantTables ν) (a : Assistant ν) (v : AssistantVersion ν)
    (now : ℕ) (fault : Option (Fault LatestPoint)) : Bool :=
  t.isTaken (a.withVersion v now) || a.withVersion v now = a ||
    match fault with
    | none => v.context.isSome && v.metadata = a.metadata
    | some f => f.point.leaves f.durable

/-- **The operations that keep the tables consistent.** -/
def keeps (setting : Setting ν) (t : AssistantTables ν) : Operation ν → Bool
  | .create request userIdentity orgId uuid now fault =>
    match newAssistant setting request userIdentity orgId uuid now with
    | .error _ => true
    | .ok a => createKeeps t a fault
  | .update assistantId request userIdentity now fault =>
    match updatedContext setting request with
    | .error _ => true
    | .ok (config, context) => (t.owned? assistantId userIdentity).all fun a =>
      updateKeeps t a
        (newVersion setting request config context a (t.maxVersion assistantId)) now fault
  | .setLatest assistantId version userIdentity now fault =>
    (t.owned? assistantId userIdentity).all fun a =>
      (t.versions.find? (assistantId, version)).all fun v => latestKeeps t a v now fault
  | .delete assistantId userIdentity fault =>
    (t.owned? assistantId userIdentity).all fun _ => fault.all fun f => f.point.leaves f.durable

/-! ### The statements on the tables -/

section

variable {t t' : AssistantTables ν} {a : Assistant ν} {v : AssistantVersion ν}
  {assistantId userId : Str} {now : ℕ}

omit [DecidableEq ν] in
theorem owned?_eq_some (h : t.owned? assistantId userId = some a) :
    a ∈ t.assistants.rows ∧ a.assistantId = assistantId ∧ a.userId = userId := by
  have hp := List.find?_some h
  rw [Bool.and_eq_true, decide_eq_true_eq, decide_eq_true_eq] at hp
  exact ⟨List.mem_of_find?_eq_some h, hp⟩

theorem insertAssistant_eq_some (h : t.insertAssistant a = some t') :
    t.isTaken a = false ∧ t.assistants.insert a = some t'.assistants ∧
      t'.versions = t.versions := by
  rw [AssistantTables.insertAssistant] at h
  split at h
  · next htaken =>
    split at h
    · cases h
    · next assistants hinsert =>
      cases h
      exact ⟨htaken, hinsert, rfl⟩
  · cases h

/-- A constraint refuses an assistant, or it is inserted. -/
theorem insertAssistant_cases (t : AssistantTables ν) (a : Assistant ν) :
    t.refuses a = true ∧ t.insertAssistant a = none ∨
      t.refuses a = false ∧ ∃ t', t.insertAssistant a = some t' := by
  have hmem : (t.assistants.rows.any fun b => b.assistantId = a.assistantId) = true ↔
      a.assistantId ∈ t.assistants.rows.map Assistant.assistantId := by
    simp [List.any_eq_true]
  cases h : t.insertAssistant a with
  | some t' =>
    obtain ⟨htaken, hinsert, -⟩ := insertAssistant_eq_some h
    refine .inr ⟨?_, t', rfl⟩
    rw [AssistantTables.refuses, htaken, Bool.false_or, Bool.eq_false_iff, ne_eq, hmem]
    exact (Table.insert_eq_some hinsert).1
  | none =>
    refine .inl ⟨?_, rfl⟩
    rw [AssistantTables.insertAssistant] at h
    split at h
    · split at h
      · next hinsert =>
        rw [AssistantTables.refuses, Bool.or_eq_true]
        exact .inr (hmem.mpr (Table.mem_of_insert_eq_none hinsert))
      · cases h
    · next htaken =>
      rw [AssistantTables.refuses, eq_true_of_ne_false htaken, Bool.true_or]

omit [DecidableEq ν] in
theorem insertVersion_eq_some (h : t.insertVersion v = some t') :
    t'.assistants = t.assistants ∧ t.versions.insert v = some t'.versions := by
  rw [AssistantTables.insertVersion] at h
  split at h
  · split at h
    · cases h
    · next versions hinsert =>
      cases h
      exact ⟨rfl, hinsert⟩
  · cases h

omit [DecidableEq ν] in
/-- A version is accepted if its key is new and its assistant is there. -/
theorem exists_insertVersion (hnew : v.key ∉ t.versions.rows.map AssistantVersion.key)
    (hreference : v.assistantId ∈ t.assistants.rows.map Assistant.assistantId) :
    ∃ t', t.insertVersion v = some t' := by
  rw [AssistantTables.insertVersion, dif_pos hreference]
  split
  · next hinsert => exact absurd (Table.mem_of_insert_eq_none hinsert) hnew
  · exact ⟨_, rfl⟩

theorem updateAssistant_eq_some (h : t.updateAssistant assistantId userId v now = some t') :
    t'.versions = t.versions ∧ t'.assistants = t.assistants.updateIf
      (fun a => a.assistantId = assistantId && a.userId = userId) (Assistant.withVersion v now)
      fun _ => rfl := by
  rw [AssistantTables.updateAssistant] at h
  split at h
  · cases h
    exact ⟨rfl, rfl⟩
  · cases h

/-- The new setup of an assistant is taken, or the assistant is updated. -/
theorem updateAssistant_cases (v : AssistantVersion ν) (now : ℕ)
    (h : t.owned? assistantId userId = some a) :
    t.isTaken (a.withVersion v now) = true ∧ t.updateAssistant assistantId userId v now = none ∨
      t.isTaken (a.withVersion v now) = false ∧
        ∃ t', t.updateAssistant assistantId userId v now = some t' := by
  obtain ⟨ha, hid, huser⟩ := owned?_eq_some h
  have honly : ∀ b ∈ t.assistants.rows, (decide (b.assistantId = assistantId) &&
      decide (b.userId = userId)) = true → b = a := by
    intro b hb hp
    rw [Bool.and_eq_true, decide_eq_true_eq] at hp
    exact List.inj_on_of_nodup_map t.assistants.unique hb ha (hp.1.trans hid.symm)
  have hp : (decide (a.assistantId = assistantId) && decide (a.userId = userId)) = true := by
    simp [hid, huser]
  rw [AssistantTables.updateAssistant]
  cases htaken : t.isTaken (a.withVersion v now) with
  | false =>
    refine .inr ⟨rfl, ?_⟩
    rw [dif_pos fun b hb hb' => honly b hb hb' ▸ htaken]
    exact ⟨_, rfl⟩
  | true =>
    refine .inl ⟨rfl, dif_neg fun hfree => ?_⟩
    rw [hfree a ha hp] at htaken
    cases htaken

/-- An updated assistant is found again. -/
theorem owned?_updated (h : t.updateAssistant assistantId userId v now = some t')
    (howned : t.owned? assistantId userId = some a) :
    t'.owned? assistantId userId = some (a.withVersion v now) := by
  have hp : (decide (a.assistantId = assistantId) && decide (a.userId = userId)) = true := by
    simp [(owned?_eq_some howned).2]
  rw [AssistantTables.owned?, (updateAssistant_eq_some h).2]
  show List.find? _ (List.map _ t.assistants.rows) = _
  rw [List.find?_map]
  have hsame : ∀ b : Assistant ν, ((fun b => decide (b.assistantId = assistantId) &&
      decide (b.userId = userId)) ∘ fun b => if (decide (b.assistantId = assistantId) &&
        decide (b.userId = userId)) = true then b.withVersion v now else b) b =
      (decide (b.assistantId = assistantId) && decide (b.userId = userId)) := by
    intro b
    rw [Function.comp_apply]
    split <;> rfl
  rw [funext hsame, ← AssistantTables.owned?, howned, Option.map_some, if_pos hp]

/-! ### Consistency -/

omit [DecidableEq ν] in
/-- A new version leaves alone what agrees. -/
theorem Agrees.insertVersion {b : Assistant ν} (hb : Agrees t b)
    (h : t.insertVersion v = some t') : Agrees t' b := by
  obtain ⟨w, hw, hsame⟩ := hb
  have hinsert := (insertVersion_eq_some h).2
  refine ⟨w, ?_, hsame⟩
  rw [Table.find?_insert hinsert, if_neg, hw]
  intro hkey
  obtain ⟨hmem, hwkey⟩ := Table.find?_eq_some_iff.mp hw
  exact (Table.insert_eq_some hinsert).1 (hkey ▸ hwkey ▸ List.mem_map_of_mem hmem)

/-- A new assistant agrees with its first version. -/
theorem consistent_created {t₁ t₂ : AssistantTables ν} (ht : Consistent t)
    (hversion : a.version = 1) (h₁ : t.insertAssistant a = some t₁)
    (h₂ : t₁.insertVersion a.firstVersion = some t₂) :
    Consistent t₂ := by
  obtain ⟨-, hinsert, hversions⟩ := insertAssistant_eq_some h₁
  obtain ⟨hassistants, hfirst⟩ := insertVersion_eq_some h₂
  intro b hb
  rw [hassistants, (Table.insert_eq_some hinsert).2, List.mem_append, List.mem_singleton] at hb
  rcases hb with hb | rfl
  · have hagrees : Agrees t₁ b := by
      rw [Agrees, hversions]
      exact ht b hb
    exact hagrees.insertVersion h₂
  · refine ⟨b.firstVersion, ?_, ⟨rfl, rfl, rfl, rfl, rfl, rfl⟩⟩
    rw [Table.find?_insert hfirst, if_pos]
    rw [hversion]
    rfl

/-- An assistant that was given the columns of a version agrees with it in all but the metadata. -/
theorem consistent_updated_iff (h : t.updateAssistant assistantId userId v now = some t')
    (howned : t.owned? assistantId userId = some a) (hid : v.assistantId = assistantId)
    (hv : t.versions.find? v.key = some v)
    (hothers : ∀ b ∈ t.assistants.rows, Agrees t b) :
    Consistent t' ↔ v.metadata = a.metadata := by
  obtain ⟨ha, haid, hauser⟩ := owned?_eq_some howned
  obtain ⟨hversions, hassistants⟩ := updateAssistant_eq_some h
  have hkey : v.key = ((a.withVersion v now).assistantId, (a.withVersion v now).version) :=
    Prod.ext (hid.trans haid.symm) rfl
  constructor
  · intro ht'
    have hmem : a.withVersion v now ∈ t'.assistants.rows :=
      (owned?_eq_some (owned?_updated h howned)).1
    obtain ⟨w, hw, hsame⟩ := ht' _ hmem
    rw [hversions, ← hkey, hv] at hw
    obtain rfl := Option.some.inj hw
    exact hsame.metadata
  · intro hmetadata b hb
    rw [hassistants] at hb
    rw [Agrees, hversions]
    rcases Table.mem_updateIf _ hb with hb | ⟨old, hold, hp, rfl⟩
    · exact hothers b hb
    · rw [Bool.and_eq_true, decide_eq_true_eq, decide_eq_true_eq] at hp
      obtain rfl : old = a :=
        List.inj_on_of_nodup_map t.assistants.unique hold ha (hp.1.trans haid.symm)
      exact ⟨v, hkey ▸ hv, ⟨rfl, rfl, rfl, rfl, rfl, hmetadata⟩⟩

omit [DecidableEq ν] in
/-- A deletion leaves the other assistants and their versions alone. -/
theorem consistent_deleted (ht : Consistent t) (assistantId : Str) :
    Consistent (t.deleteAssistant assistantId) := by
  intro b hb
  obtain ⟨hb, hne⟩ := List.mem_filter.mp hb
  obtain ⟨w, hw, hsame⟩ := ht b hb
  refine ⟨w, ?_, hsame⟩
  rw [← hw]
  refine Table.find?_deleteIf_of_not fun v hv => ?_
  have hvid : v.assistantId = b.assistantId := (Prod.ext_iff.mp hv).1
  simpa [hvid] using hne

end

/-! ### The programs -/

section

variable {t t₁ t₂ : AssistantTables ν} {a : Assistant ν} {v : AssistantVersion ν} {o : Outcome ν}
  {assistantId userId : Str} {now : ℕ}

omit [DecidableEq ν] in
theorem preserves_of_unchanged (ht : Consistent t) (h : o.tables = t) : Preserves t o :=
  ⟨h.symm ▸ ht, fun _ => h⟩

omit [DecidableEq ν] in
theorem not_preserves (hraises : o.raises = true) (h : o.tables ≠ t) : ¬ Preserves t o :=
  fun hp => h (hp.unchanged hraises)

omit [DecidableEq ν] in
/-- The response changes nothing, and raises if the context is missing. -/
theorem run_respond {σ : Type} [DecidableEq σ] (fault : Option (Fault σ))
    (s : Session (AssistantTables ν)) (a : Assistant ν) :
    (respond a : AssistantProgram ν σ (Assistant ν)).run fault s =
      ⟨s, [], if a.context.isSome then .ok a else .error (.raised .validationError)⟩ := by
  rw [respond, toPydantic]
  cases a.context.isSome <;> rfl

theorem outcome_existing {e : Assistant ν} (ifExists : Option Str) (h : t.existing? a = some e)
    (fault : Option (Fault CreatePoint)) :
    (outcome t (addAssistant ifExists a) fault).tables = t := by
  cases fault with
  | none =>
    by_cases hdo : ifExists = some doNothing <;>
      simp [outcome, addAssistant, UnitOfWork.Program.run, h, hdo, run_respond]
  | some f =>
    obtain ⟨point, durable, usable⟩ := f
    by_cases hdo : ifExists = some doNothing <;> cases point <;>
      simp [outcome, addAssistant, UnitOfWork.Program.run, h, hdo, run_respond]

theorem outcome_refused (ifExists : Option Str) (hexisting : t.existing? a = none)
    (h : t.insertAssistant a = none) (fault : Option (Fault CreatePoint)) :
    (outcome t (addAssistant ifExists a) fault).tables = t := by
  cases fault with
  | none => simp [outcome, addAssistant, UnitOfWork.Program.run, hexisting, h]
  | some f =>
    obtain ⟨point, durable, usable⟩ := f
    cases point <;> simp [outcome, addAssistant, UnitOfWork.Program.run, hexisting, h]

/-- A creation that no constraint refuses. -/
theorem outcome_created (ifExists : Option Str) (hexisting : t.existing? a = none)
    (h₁ : t.insertAssistant a = some t₁) (h₂ : t₁.insertVersion a.firstVersion = some t₂)
    (fault : Option (Fault CreatePoint)) :
    match fault with
    | none => outcome t (addAssistant ifExists a) fault = ⟨t₂, !a.context.isSome⟩
    | some f => (outcome t (addAssistant ifExists a) fault).raises = true ∧
        ((outcome t (addAssistant ifExists a) fault).tables =
          if f.point.leaves f.durable then t
          else if f.point = .committingVersion ∧ f.durable = true then t₂ else t₁) := by
  cases fault with
  | none =>
    simp only [outcome, addAssistant, UnitOfWork.Program.run, hexisting, h₁, h₂, run_respond,
      Fault.isAt_none, Session.open, Session.commit, if_true]
    cases a.context.isSome <;> rfl
  | some f =>
    obtain ⟨point, durable, usable⟩ := f
    cases point <;> cases durable <;>
      simp [outcome, addAssistant, UnitOfWork.Program.run, hexisting, h₁, h₂, CreatePoint.leaves,
        Except.isOk, Except.toBool]

theorem rows_ne_of_insertAssistant (h : t.insertAssistant a = some t₁) :
    t₁.assistants.rows.length ≠ t.assistants.rows.length := by
  rw [(Table.insert_eq_some (insertAssistant_eq_some h).2.1).2, List.length_append,
    List.length_singleton]
  omega

/-- **A creation.** -/
theorem preserves_created_iff (ht : Consistent t) (ifExists : Option Str)
    (hversion : a.version = 1) (fault : Option (Fault CreatePoint)) :
    Preserves t (outcome t (addAssistant ifExists a) fault) ↔ createKeeps t a fault = true := by
  rw [createKeeps.eq_def]
  cases hexisting : t.existing? a with
  | some e =>
    exact iff_of_true (preserves_of_unchanged ht (outcome_existing ifExists hexisting fault)) rfl
  | none =>
    rcases insertAssistant_cases t a with ⟨hrefuses, hinsert⟩ | ⟨hrefuses, t₁, h₁⟩
    · rw [hrefuses]
      exact iff_of_true
        (preserves_of_unchanged ht (outcome_refused ifExists hexisting hinsert fault)) rfl
    · obtain ⟨-, hinsert, hversions⟩ := insertAssistant_eq_some h₁
      obtain ⟨hnew, hrows⟩ := Table.insert_eq_some hinsert
      obtain ⟨t₂, h₂⟩ : ∃ t₂, t₁.insertVersion a.firstVersion = some t₂ := by
        refine exists_insertVersion (fun hkey => ?_) (by simp [hrows, Assistant.firstVersion])
        -- a version of the new assistant would refer to it
        rw [hversions] at hkey
        obtain ⟨w, hw, hwkey⟩ := List.mem_map.mp hkey
        have hwid : w.assistantId = a.assistantId := (Prod.ext_iff.mp hwkey).1
        exact hnew (hwid ▸ t.references w hw)
      have hne₁ : t₁ ≠ t := fun h => rows_ne_of_insertAssistant h₁ (by rw [h])
      have hne₂ : t₂ ≠ t := fun h => by
        have hlength := rows_ne_of_insertAssistant h₁
        rw [← (insertVersion_eq_some h₂).1, h] at hlength
        exact hlength rfl
      have hoc := outcome_created ifExists hexisting h₁ h₂ fault
      rw [hrefuses]
      cases fault with
      | none =>
        dsimp only at hoc ⊢
        rw [hoc, Option.isSome_none, Bool.false_or, Bool.false_or]
        have hconsistent := consistent_created ht hversion h₁ h₂
        cases a.context.isSome with
        | false => exact iff_of_false (not_preserves rfl hne₂) (by decide)
        | true => exact iff_of_true ⟨hconsistent, fun h => by cases h⟩ rfl
      | some f =>
        obtain ⟨hraises, htables⟩ := hoc
        dsimp only
        rw [Option.isSome_none, Bool.false_or, Bool.false_or]
        cases hleaves : f.point.leaves f.durable with
        | true =>
          rw [if_pos hleaves] at htables
          exact iff_of_true (preserves_of_unchanged ht htables) rfl
        | false =>
          rw [if_neg (by simp [hleaves])] at htables
          refine iff_of_false (not_preserves hraises ?_) (by decide)
          rw [htables]
          split
          · exact hne₂
          · exact hne₁

/-- An update of an assistant that is found, and whose version is accepted. -/
theorem outcome_updated (setting : Setting ν) (request : AssistantUpdate ν) (now : ℕ) {config : ν}
    {context : Option ν} (hcontext : updatedContext setting request = .ok (config, context))
    (howned : t.owned? assistantId userId = some a)
    (hv : newVersion setting request config context a (t.maxVersion assistantId) = v)
    (h₁ : t.insertVersion v = some t₁) (fault : Option (Fault UpdatePoint)) :
    let o := outcome t (updateAssistant setting assistantId request userId now) fault
    match fault with
    | none =>
      match t₁.updateAssistant assistantId userId v now with
      | none => o = ⟨t₁, true⟩
      | some t₂ => o = ⟨t₂, !v.context.isSome⟩
    | some f => o.raises = true ∧
        if f.point.leaves f.durable then o.tables = t else o.tables.versions = t₁.versions := by
  have howned₁ : t₁.owned? assistantId userId = some a := by
    rw [AssistantTables.owned?, (insertVersion_eq_some h₁).1, ← AssistantTables.owned?, howned]
  cases h₂ : t₁.updateAssistant assistantId userId v now with
  | none =>
    cases fault with
    | none =>
      simp [outcome, updateAssistant, hcontext, howned, hv, writeVersion, UnitOfWork.Program.run,
        h₁, h₂, Session.open, Except.isOk, Except.toBool]
    | some f =>
      obtain ⟨point, durable, usable⟩ := f
      cases point <;> cases durable <;>
        simp [outcome, updateAssistant, hcontext, howned, hv, writeVersion, UnitOfWork.Program.run,
          h₁, h₂, UpdatePoint.leaves, Except.isOk, Except.toBool]
  | some t₂ =>
    have howned₂ := owned?_updated h₂ howned₁
    have hversions := (updateAssistant_eq_some h₂).1
    cases fault with
    | none =>
      simp only [outcome, updateAssistant, hcontext, howned, hv, writeVersion, reload,
        UnitOfWork.Program.run, h₁, h₂, howned₂, run_respond, Fault.isAt_none, Session.open,
        Session.commit, if_true]
      rw [show (a.withVersion v now).context = v.context from rfl]
      cases v.context.isSome <;> rfl
    | some f =>
      obtain ⟨point, durable, usable⟩ := f
      cases point <;> cases durable <;>
        simp [outcome, updateAssistant, hcontext, howned, hv, writeVersion, reload,
          UnitOfWork.Program.run, h₁, h₂, hversions, UpdatePoint.leaves, Except.isOk, Except.toBool]

omit [DecidableEq ν] in
/-- The number of a new version is greater than all that the assistant has. -/
theorem lt_newVersionNumber {w : AssistantVersion ν} (hw : w ∈ t.versions.rows) :
    w.version < newVersionNumber (t.maxVersion w.assistantId) := by
  have hmem : w.version ∈ (t.versions.rows.filter fun v =>
      v.assistantId = w.assistantId).map AssistantVersion.version :=
    List.mem_map_of_mem (List.mem_filter.mpr ⟨hw, by simp⟩)
  cases hmax : t.maxVersion w.assistantId with
  | none =>
    rw [AssistantTables.maxVersion, List.max?_eq_none_iff] at hmax
    rw [hmax] at hmem
    cases hmem
  | some m =>
    have hle : w.version ≤ m := (List.max?_eq_some_iff.mp hmax).2 _ hmem
    rw [newVersionNumber]
    split <;> omega

omit [DecidableEq ν] in
/-- The version of an update is accepted. -/
theorem exists_newVersion (setting : Setting ν) (request : AssistantUpdate ν) (config : ν)
    (context : Option ν) (howned : t.owned? assistantId userId = some a) :
    ∃ t₁, t.insertVersion
      (newVersion setting request config context a (t.maxVersion assistantId)) = some t₁ := by
  obtain ⟨ha, hid, -⟩ := owned?_eq_some howned
  refine exists_insertVersion (fun hkey => ?_) (List.mem_map_of_mem ha)
  obtain ⟨w, hw, hwkey⟩ := List.mem_map.mp hkey
  have hwid : w.assistantId = a.assistantId := (Prod.ext_iff.mp hwkey).1
  have hnumber : w.version = newVersionNumber (t.maxVersion assistantId) :=
    (Prod.ext_iff.mp hwkey).2
  have hlt := lt_newVersionNumber hw
  rw [hwid, hid] at hlt
  omega

/-- **An update.** -/
theorem preserves_updated_iff (ht : Consistent t) (setting : Setting ν)
    (request : AssistantUpdate ν) {config : ν} {context : Option ν}
    (hcontext : updatedContext setting request = .ok (config, context))
    (howned : t.owned? assistantId userId = some a) (fault : Option (Fault UpdatePoint)) :
    Preserves t (outcome t (updateAssistant setting assistantId request userId now) fault) ↔
      updateKeeps t a (newVersion setting request config context a (t.maxVersion assistantId))
        now fault = true := by
  obtain ⟨t₁, h₁⟩ := exists_newVersion setting request config context howned
  have hoc := outcome_updated setting request now hcontext howned rfl h₁ fault
  generalize hv : newVersion setting request config context a (t.maxVersion assistantId) = v
    at h₁ hoc ⊢
  obtain ⟨hassistants, hinsert⟩ := insertVersion_eq_some h₁
  have hvid : v.assistantId = assistantId := by
    rw [← hv]
    exact (owned?_eq_some howned).2.1
  -- once the version is there, the tables are not what they were
  have hne : ∀ t' : AssistantTables ν, t'.versions = t₁.versions → t' ≠ t := by
    rintro t' hversions rfl
    have hlength := congrArg List.length (Table.insert_eq_some hinsert).2
    rw [← hversions, List.length_append, List.length_singleton] at hlength
    omega
  have howned₁ : t₁.owned? assistantId userId = some a := by
    rw [AssistantTables.owned?, hassistants, ← AssistantTables.owned?, howned]
  have htaken₁ : t₁.isTaken (a.withVersion v now) = t.isTaken (a.withVersion v now) := by
    rw [AssistantTables.isTaken, hassistants, ← AssistantTables.isTaken]
  cases fault with
  | none =>
    rw [updateKeeps]
    rcases updateAssistant_cases v now howned₁ with ⟨htaken, h₂⟩ | ⟨htaken, t₂, h₂⟩
    · rw [h₂] at hoc
      dsimp only at hoc
      rw [hoc, ← htaken₁, htaken]
      exact iff_of_false (not_preserves rfl (hne t₁ rfl)) (by simp)
    · rw [h₂] at hoc
      dsimp only at hoc
      rw [hoc, ← htaken₁, htaken, Bool.not_false, Bool.true_and, Bool.and_eq_true,
        decide_eq_true_eq]
      have hothers : ∀ b ∈ t₁.assistants.rows, Agrees t₁ b := by
        rw [hassistants]
        exact fun b hb => (ht b hb).insertVersion h₁
      have hkey : t₁.versions.find? v.key = some v := by rw [Table.find?_insert hinsert, if_pos rfl]
      have hconsistent := consistent_updated_iff h₂ howned₁ hvid hkey hothers
      cases v.context.isSome with
      | false =>
        exact iff_of_false (not_preserves rfl (hne t₂ (updateAssistant_eq_some h₂).1))
          fun h => by cases h.1
      | true =>
        rw [← hconsistent]
        exact ⟨fun h => ⟨rfl, h.consistent⟩, fun h => ⟨h.2, fun hraises => by cases hraises⟩⟩
  | some f =>
    obtain ⟨hraises, htables⟩ := hoc
    rw [updateKeeps]
    cases hleaves : f.point.leaves f.durable with
    | true =>
      rw [if_pos hleaves] at htables
      exact iff_of_true (preserves_of_unchanged ht htables) rfl
    | false =>
      rw [if_neg (by simp [hleaves])] at htables
      exact iff_of_false (not_preserves hraises (hne _ htables)) (by decide)

/-- A rollback to a version that is found. -/
theorem outcome_restored {version : ℤ} (now : ℕ) (howned : t.owned? assistantId userId = some a)
    (hv : t.versions.find? (assistantId, version) = some v) (fault : Option (Fault LatestPoint)) :
    let o := outcome t (setAssistantLatest assistantId version userId now) fault
    match t.updateAssistant assistantId userId v now with
    | none => o.tables = t
    | some t₁ =>
      match fault with
      | none => o = ⟨t₁, !v.context.isSome⟩
      | some f => o.raises = true ∧ o.tables = if f.point.leaves f.durable then t else t₁ := by
  cases h₁ : t.updateAssistant assistantId userId v now with
  | none =>
    cases fault with
    | none =>
      simp [outcome, setAssistantLatest, howned, hv, restoreVersion, UnitOfWork.Program.run, h₁]
    | some f =>
      obtain ⟨point, durable, usable⟩ := f
      cases point <;>
        simp [outcome, setAssistantLatest, howned, hv, restoreVersion, UnitOfWork.Program.run, h₁]
  | some t₁ =>
    have howned₁ := owned?_updated h₁ howned
    cases fault with
    | none =>
      simp only [outcome, setAssistantLatest, howned, hv, restoreVersion, reload,
        UnitOfWork.Program.run, h₁, howned₁, run_respond, Fault.isAt_none, Session.open,
        Session.commit, if_true]
      rw [show (a.withVersion v now).context = v.context from rfl]
      cases v.context.isSome <;> rfl
    | some f =>
      obtain ⟨point, durable, usable⟩ := f
      cases point <;> cases durable <;>
        simp [outcome, setAssistantLatest, howned, hv, restoreVersion, reload,
          UnitOfWork.Program.run, h₁, LatestPoint.leaves, Except.isOk, Except.toBool]

/-- A rollback that is written changes the tables, unless the assistant has the columns already. -/
theorem updated_eq_iff (h : t.updateAssistant assistantId userId v now = some t₁)
    (howned : t.owned? assistantId userId = some a) : t₁ = t ↔ a.withVersion v now = a := by
  constructor
  · rintro rfl
    exact Option.some.inj ((owned?_updated h howned).symm.trans howned)
  · intro heq
    obtain ⟨ha, haid, -⟩ := owned?_eq_some howned
    obtain ⟨hversions, hassistants⟩ := updateAssistant_eq_some h
    refine AssistantTables.ext (Table.ext ?_) hversions
    rw [hassistants]
    refine (List.map_congr_left fun b hb => ?_).trans (List.map_id _)
    split
    · next hp =>
      rw [Bool.and_eq_true, decide_eq_true_eq] at hp
      rw [List.inj_on_of_nodup_map t.assistants.unique hb ha (hp.1.trans haid.symm), heq]
      rfl
    · rfl

/-- **A rollback.** -/
theorem preserves_restored_iff (ht : Consistent t) {version : ℤ}
    (howned : t.owned? assistantId userId = some a)
    (hv : t.versions.find? (assistantId, version) = some v) (fault : Option (Fault LatestPoint)) :
    Preserves t (outcome t (setAssistantLatest assistantId version userId now) fault) ↔
      latestKeeps t a v now fault = true := by
  have hoc := outcome_restored now howned hv fault
  obtain ⟨-, hkey⟩ := Table.find?_eq_some_iff.mp hv
  have hvid : v.assistantId = assistantId := (Prod.ext_iff.mp hkey).1
  rw [latestKeeps.eq_def]
  rcases updateAssistant_cases v now howned with ⟨htaken, h₁⟩ | ⟨htaken, t₁, h₁⟩
  · rw [h₁] at hoc
    rw [htaken]
    exact iff_of_true (preserves_of_unchanged ht hoc) rfl
  · rw [h₁] at hoc
    rw [htaken, Bool.false_or]
    have heq := updated_eq_iff h₁ howned
    by_cases hsame : a.withVersion v now = a
    · have htables : (outcome t (setAssistantLatest assistantId version userId now) fault).tables
          = t := by
        cases fault with
        | none => rw [hoc, heq.mpr hsame]
        | some f => rw [hoc.2, heq.mpr hsame, ite_self]
      rw [decide_eq_true hsame, Bool.true_or]
      exact iff_of_true (preserves_of_unchanged ht htables) rfl
    · rw [decide_eq_false hsame, Bool.false_or]
      cases fault with
      | none =>
        dsimp only at hoc ⊢
        rw [hoc, Bool.and_eq_true, decide_eq_true_eq,
          ← consistent_updated_iff h₁ howned hvid (hkey ▸ hv) ht]
        cases v.context.isSome with
        | false => exact iff_of_false (not_preserves rfl (mt heq.mp hsame)) fun h => by cases h.1
        | true =>
          exact ⟨fun h => ⟨rfl, h.consistent⟩, fun h => ⟨h.2, fun hraises => by cases hraises⟩⟩
      | some f =>
        obtain ⟨hraises, htables⟩ := hoc
        dsimp only
        cases hleaves : f.point.leaves f.durable with
        | true =>
          rw [if_pos hleaves] at htables
          exact iff_of_true (preserves_of_unchanged ht htables) rfl
        | false =>
          rw [if_neg (by simp [hleaves])] at htables
          exact iff_of_false (not_preserves hraises (htables ▸ mt heq.mp hsame)) (by decide)

omit [DecidableEq ν] in
/-- **A deletion.** -/
theorem preserves_deleted_iff (ht : Consistent t) (howned : t.owned? assistantId userId = some a)
    (fault : Option (Fault DeletePoint)) :
    Preserves t (outcome t (deleteAssistant assistantId userId) fault) ↔
      (fault.all fun f => f.point.leaves f.durable) = true := by
  obtain ⟨ha, -, -⟩ := owned?_eq_some howned
  have hne : t.deleteAssistant a.assistantId ≠ t := by
    intro h
    have hmem : a ∈ (t.deleteAssistant a.assistantId).assistants.rows := h.symm ▸ ha
    simpa using (List.mem_filter.mp hmem).2
  cases fault with
  | none =>
    have hoc : outcome t (deleteAssistant assistantId userId) none =
        ⟨t.deleteAssistant a.assistantId, false⟩ := by
      simp [outcome, deleteAssistant, howned, UnitOfWork.Program.run, Session.open, Except.isOk,
        Except.toBool]
    rw [hoc]
    exact iff_of_true ⟨consistent_deleted ht _, fun h => by cases h⟩ rfl
  | some f =>
    have hoc : (outcome t (deleteAssistant assistantId userId) (some f)).raises = true ∧
        (outcome t (deleteAssistant assistantId userId) (some f)).tables =
          if f.point.leaves f.durable then t else t.deleteAssistant a.assistantId := by
      obtain ⟨point, durable, usable⟩ := f
      cases point <;> cases durable <;>
        simp [outcome, deleteAssistant, howned, UnitOfWork.Program.run, DeletePoint.leaves,
          Except.isOk, Except.toBool]
    rw [Option.all_some]
    cases hleaves : f.point.leaves f.durable with
    | true => exact iff_of_true (preserves_of_unchanged ht (hoc.2.trans (if_pos hleaves))) rfl
    | false =>
      refine iff_of_false (not_preserves hoc.1 ?_) (by decide)
      rw [hoc.2, if_neg (by simp [hleaves])]
      exact hne

/-! ### Operations and runs -/

theorem version_newAssistant {setting : Setting ν} {request : AssistantCreate ν}
    {userIdentity : Str} {orgId : Option Str} {uuid : Str}
    (h : newAssistant setting request userIdentity orgId uuid now = .ok a) : a.version = 1 := by
  rw [newAssistant] at h
  split at h
  · cases h
  · split at h
    · cases h
    · generalize syncContext setting _ _ _ = result at h
      cases result with
      | error e => cases h
      | ok context =>
        cases h
        rfl

omit [DecidableEq ν] in
/-- A program that raises after its first query changes nothing. -/
theorem outcome_query_raise {σ β : Type} [DecidableEq σ] (point : σ)
    {next : AssistantTables ν → AssistantProgram ν σ β} {e : AssistantError}
    (h : next t = .raise e) (fault : Option (Fault σ)) :
    (outcome t (.query point next) fault).tables = t := by
  cases hat : Fault.isAt fault point <;> simp [outcome, UnitOfWork.Program.run, hat, h]

theorem outcome_no_version {version : ℤ} (howned : t.owned? assistantId userId = some a)
    (hv : t.versions.find? (assistantId, version) = none) (fault : Option (Fault LatestPoint)) :
    (outcome t (setAssistantLatest assistantId version userId now) fault).tables = t := by
  cases fault with
  | none => simp [outcome, setAssistantLatest, howned, hv, UnitOfWork.Program.run]
  | some f =>
    obtain ⟨point, durable, usable⟩ := f
    cases point <;> simp [outcome, setAssistantLatest, howned, hv, UnitOfWork.Program.run]

/-- **One operation** keeps the tables consistent, and leaves them alone if it raises, exactly if it
meets the condition. -/
theorem holds_iff (setting : Setting ν) (ht : Consistent t) (operation : Operation ν) :
    Holds setting t operation ↔ keeps setting t operation = true := by
  rw [Holds]
  cases operation with
  | create request userIdentity orgId uuid now fault =>
    rw [perform, keeps, createAssistant]
    cases hnew : newAssistant setting request userIdentity orgId uuid now with
    | error e => exact iff_of_true (preserves_of_unchanged ht rfl) rfl
    | ok a => exact preserves_created_iff ht request.ifExists (version_newAssistant hnew) fault
  | update assistantId request userIdentity now fault =>
    rw [perform, keeps]
    cases hcontext : updatedContext setting request with
    | error e =>
      have htables : (outcome t (updateAssistant setting assistantId request userIdentity now)
          fault).tables = t := by
        rw [updateAssistant, hcontext]
        rfl
      exact iff_of_true (preserves_of_unchanged ht htables) rfl
    | ok context =>
      cases howned : t.owned? assistantId userIdentity with
      | none =>
        have htables : (outcome t (updateAssistant setting assistantId request userIdentity now)
            fault).tables = t := by
          rw [updateAssistant, hcontext]
          exact outcome_query_raise _ (by rw [howned]) fault
        exact iff_of_true (preserves_of_unchanged ht htables) rfl
      | some a => exact preserves_updated_iff ht setting request hcontext howned fault
  | setLatest assistantId version userIdentity now fault =>
    rw [perform, keeps]
    cases howned : t.owned? assistantId userIdentity with
    | none =>
      exact iff_of_true
        (preserves_of_unchanged ht (outcome_query_raise _ (by rw [howned]) fault)) rfl
    | some a =>
      cases hv : t.versions.find? (assistantId, version) with
      | none =>
        exact iff_of_true (preserves_of_unchanged ht (outcome_no_version howned hv fault)) rfl
      | some v => exact preserves_restored_iff ht howned hv fault
  | delete assistantId userIdentity fault =>
    rw [perform, keeps]
    cases howned : t.owned? assistantId userIdentity with
    | none =>
      exact iff_of_true
        (preserves_of_unchanged ht (outcome_query_raise _ (by rw [howned]) fault)) rfl
    | some a => exact preserves_deleted_iff ht howned fault

/-- **The row of an assistant and its version** agree in every state of a run, and every operation
of it that raises leaves the tables as they were, exactly if all operations meet the condition. -/
theorem versions_agree_iff (setting : Setting ν) (ht : Consistent t)
    (operations : List (Operation ν)) :
    Along (step setting) (Holds setting) t operations ↔
      Along (step setting) (fun t operation => keeps setting t operation = true) t operations := by
  refine along_iff_along (fun t operation ht => holds_iff setting ht operation)
    (fun t operation t' _ hholds hstep => ?_) ht
  obtain rfl := Option.some.inj hstep
  exact hholds.consistent

end

/-! ### An update of the metadata -/

/-- A server with one graph, whose JSON objects are numbers, `0` the empty one. -/
def oneGraph : Setting ℕ where
  availableGraphs := ["agent".toList]
  printedGraphs := "['agent']".toList
  loadError _ := none
  emptyObject := 0
  configurable _ := none
  setConfigurable _ context := context

def creation : Operation ℕ :=
  .create ⟨some "a".toList, none, none, some 0, some 0, "agent".toList, some 5, none⟩
    "u".toList none "b".toList 0 none

def updateWith (metadata : ℕ) : Operation ℕ :=
  .update "a".toList ⟨none, none, some 0, "agent".toList, some 1, some metadata⟩ "u".toList 1 none

/-- An assistant is created, updated with its metadata, and rolled back. -/
theorem versions_agree_same_metadata :
    Along (step oneGraph) (Holds oneGraph) .empty
      [creation, updateWith 5, .setLatest "a".toList 1 "u".toList 2 none] :=
  (versions_agree_iff oneGraph (t := .empty) (fun _ ha => absurd ha List.not_mem_nil) _).mpr
    (by decide)

/-- With other metadata the tables do not agree. -/
theorem versions_disagree :
    ¬ ∀ operations, Along (step oneGraph) (Holds oneGraph) .empty operations := by
  intro hall
  obtain ⟨-, hrest⟩ := hall [creation, updateWith 6]
  obtain ⟨hholds, -⟩ := hrest _ rfl
  have hmetadata : ((perform oneGraph (perform oneGraph .empty creation).tables
      (updateWith 6)).tables.assistants.rows.all fun a =>
        ((perform oneGraph (perform oneGraph .empty creation).tables
          (updateWith 6)).tables.versions.find? (a.assistantId, a.version)).any fun v =>
            v.metadata = a.metadata) = true := by
    refine List.all_eq_true.mpr fun a ha => ?_
    obtain ⟨v, hv, hsame⟩ := hholds.consistent a ha
    rw [hv, Option.any_some]
    exact decide_eq_true hsame.metadata
  exact absurd hmetadata (by decide)

end AssistantService

end OpenLangGraph

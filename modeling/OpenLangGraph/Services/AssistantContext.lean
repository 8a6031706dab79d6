import OpenLangGraph.Foundation.CanonicalObject
import OpenLangGraph.Services.AssistantVersions

/-!
# The context of an assistant and its configuration

The context of a row is also the member `configurable` of its configuration. Every operation that
writes a row takes both from a request that it has made to agree, or from a version, so they agree
in both tables, in all that an operation commits, also when it then fails.

## Main definitions

* `jsonSetting` — a server, over JSON objects
* `InSync`, `Synced` — the two columns of a row, and of all rows

## Main results

* `inSync_of_syncContext` — what a request is made to say
* `synced_run` — runs
-/

namespace OpenLangGraph

namespace AssistantService

open PyString Transition UnitOfWork

/-- A server. -/
def jsonSetting (availableGraphs : List Str) (printedGraphs : Str)
    (loadError : Str → Option Str) : Setting CanonicalObject where
  availableGraphs
  printedGraphs
  loadError
  emptyObject := .empty
  configurable config := config.object? "configurable"
  setConfigurable config context := config.setObject "configurable" context

/-- A context is what the configuration has under `configurable`, and if that is an object, it is
the context. -/
structure InSync (config : CanonicalObject) (context : Option CanonicalObject) : Prop where
  stored : ∀ c, context = some c → config.entries.lookup "configurable" = some (.obj c.entries)
  shown : ∀ c : CanonicalObject, config.entries.lookup "configurable" = some (.obj c.entries) →
    context = some c

/-- The columns agree in every row of the two tables. -/
structure Synced (t : AssistantTables CanonicalObject) : Prop where
  assistants : ∀ a ∈ t.assistants.rows, InSync a.config a.context
  versions : ∀ v ∈ t.versions.rows, InSync v.config v.context

theorem inSync_iff {config : CanonicalObject} {context : Option CanonicalObject} :
    InSync config context ↔ config.object? "configurable" = context := by
  have hstored : ∀ c : CanonicalObject,
      config.entries.lookup "configurable" = some (.obj c.entries) ↔
        config.object? "configurable" = some c :=
    fun c => CanonicalObject.object?_eq_some_iff.symm
  constructor
  · rintro ⟨h₁, h₂⟩
    cases context with
    | some c => exact (hstored c).mp (h₁ c rfl)
    | none =>
      cases h : config.object? "configurable" with
      | none => rfl
      | some c => exact absurd (h₂ c ((hstored c).mpr h)) (by simp)
  · rintro rfl
    exact ⟨fun c => (hstored c).mpr, fun c => (hstored c).mp⟩

theorem synced_empty : Synced .empty :=
  ⟨fun _ ha => absurd ha List.not_mem_nil, fun _ hv => absurd hv List.not_mem_nil⟩

section

variable {availableGraphs : List Str} {printedGraphs : Str} {loadError : Str → Option Str}

/-- What a request is made to say agrees. -/
theorem inSync_of_syncContext {detail : Str} {config context context' : Option CanonicalObject}
    {config' : CanonicalObject}
    (h : syncContext (jsonSetting availableGraphs printedGraphs loadError) detail config context =
      .ok (config', context')) : InSync config' context' := by
  rw [inSync_iff]
  rw [syncContext.eq_def] at h
  dsimp only at h
  split at h
  · next hsection =>
    split at h
    · cases h
    · cases h
      exact hsection
  · next hsection =>
    cases h
    exact hsection
  · cases h
    exact CanonicalObject.object?_setObject _ _ _
  · next hsection =>
    cases h
    exact hsection

/-! ### Writes -/

variable {t t' : AssistantTables CanonicalObject} {a : Assistant CanonicalObject}
  {v : AssistantVersion CanonicalObject}

theorem Synced.insertAssistant (ht : Synced t) (ha : InSync a.config a.context)
    (h : t.insertAssistant a = some t') : Synced t' := by
  obtain ⟨-, hinsert, hversions⟩ := insertAssistant_eq_some h
  refine ⟨fun b hb => ?_, hversions ▸ ht.versions⟩
  rw [(Table.insert_eq_some hinsert).2, List.mem_append, List.mem_singleton] at hb
  rcases hb with hb | rfl
  · exact ht.assistants b hb
  · exact ha

theorem Synced.insertVersion (ht : Synced t) (hv : InSync v.config v.context)
    (h : t.insertVersion v = some t') : Synced t' := by
  obtain ⟨hassistants, hinsert⟩ := insertVersion_eq_some h
  refine ⟨hassistants ▸ ht.assistants, fun w hw => ?_⟩
  rw [(Table.insert_eq_some hinsert).2, List.mem_append, List.mem_singleton] at hw
  rcases hw with hw | rfl
  · exact ht.versions w hw
  · exact hv

theorem Synced.updateAssistant {assistantId userId : Str} {now : ℕ} (ht : Synced t)
    (hv : InSync v.config v.context)
    (h : t.updateAssistant assistantId userId v now = some t') : Synced t' := by
  obtain ⟨hversions, hassistants⟩ := updateAssistant_eq_some h
  refine ⟨fun b hb => ?_, hversions ▸ ht.versions⟩
  rw [hassistants] at hb
  rcases Table.mem_updateIf _ hb with hb | ⟨old, -, -, rfl⟩
  · exact ht.assistants b hb
  · exact hv

theorem Synced.deleteAssistant (ht : Synced t) (assistantId : Str) :
    Synced (t.deleteAssistant assistantId) :=
  ⟨fun b hb => ht.assistants b (Table.mem_deleteIf hb),
    fun w hw => ht.versions w (Table.mem_deleteIf hw)⟩

/-! ### Operations -/

variable {σ : Type} {assistantId userIdentity : Str} {now : ℕ}

theorem keeps_respond (a : Assistant CanonicalObject) :
    (respond a : AssistantProgram CanonicalObject σ _).Keeps Synced := by
  rw [respond]
  split
  · trivial
  · trivial

theorem keeps_reload (point : σ) :
    (reload point assistantId userIdentity).Keeps Synced := by
  refine Program.keeps_query.mpr fun t _ => ?_
  split
  · trivial
  · exact keeps_respond _

theorem keeps_createAssistant (request : AssistantCreate CanonicalObject) (orgId : Option Str)
    (uuid : Str) : (createAssistant (jsonSetting availableGraphs printedGraphs loadError) request
      userIdentity orgId uuid now).Keeps Synced := by
  rw [createAssistant]
  split
  · trivial
  · next a hnew =>
    have ha : InSync a.config a.context := by
      rw [newAssistant] at hnew
      split at hnew
      · cases hnew
      · split at hnew
        · cases hnew
        · generalize hsync : syncContext (jsonSetting availableGraphs printedGraphs loadError)
            _ _ _ = result at hnew
          cases result with
          | error e => cases hnew
          | ok both =>
            cases hnew
            exact inSync_of_syncContext hsync
    refine Program.keeps_query.mpr fun t _ => ?_
    split
    · split
      · exact keeps_respond _
      · trivial
    · exact Program.keeps_flush.mpr ⟨fun t t' ht h => ht.insertAssistant ha h, fun t _ =>
        ⟨fun t t' ht h => ht.insertVersion ha h, keeps_respond a⟩⟩

theorem keeps_updateAssistant (request : AssistantUpdate CanonicalObject) :
    (updateAssistant (jsonSetting availableGraphs printedGraphs loadError) assistantId request
      userIdentity now).Keeps Synced := by
  rw [updateAssistant]
  split
  · trivial
  · next config context hsync =>
    have hboth : InSync config context := inSync_of_syncContext hsync
    refine Program.keeps_query.mpr fun t _ => ?_
    split
    · trivial
    · refine Program.keeps_query.mpr fun t _ => ?_
      exact Program.keeps_flush.mpr ⟨fun t t' ht h => ht.insertVersion hboth h,
        fun t t' ht h => ht.updateAssistant hboth h, keeps_reload UpdatePoint.reloading⟩

theorem keeps_setAssistantLatest (version : ℤ) :
    (setAssistantLatest assistantId version userIdentity now).Keeps Synced := by
  refine Program.keeps_query.mpr fun t _ => ?_
  split
  · trivial
  · refine Program.keeps_query.mpr fun t ht => ?_
    split
    · trivial
    · next v hv =>
      have hboth : InSync v.config v.context := ht.versions v (Table.find?_eq_some_iff.mp hv).1
      exact Program.keeps_flush.mpr ⟨fun t t' ht h => ht.updateAssistant hboth h,
        keeps_reload LatestPoint.reloading⟩

theorem keeps_deleteAssistant :
    (deleteAssistant (ν := CanonicalObject) assistantId userIdentity).Keeps Synced := by
  refine Program.keeps_query.mpr fun t _ => ?_
  split
  · trivial
  · refine Program.keeps_flush.mpr ⟨fun t t' ht h => ?_, trivial⟩
    cases h
    exact ht.deleteAssistant _

/-- **An operation**, whichever of its statements fails. -/
theorem Synced.step (ht : Synced t) {operation : Operation CanonicalObject}
    (h : step (jsonSetting availableGraphs printedGraphs loadError) t operation = some t') :
    Synced t' := by
  obtain rfl := Option.some.inj h
  cases operation with
  | create request userIdentity orgId uuid now fault =>
    exact (keeps_createAssistant request orgId uuid).committed_run fault ht ht
  | update assistantId request userIdentity now fault =>
    exact (keeps_updateAssistant request).committed_run fault ht ht
  | setLatest assistantId version userIdentity now fault =>
    exact (keeps_setAssistantLatest version).committed_run fault ht ht
  | delete assistantId userIdentity fault => exact keeps_deleteAssistant.committed_run fault ht ht

end

/-- **The two columns agree** in every state that operations reach. -/
theorem synced_run (availableGraphs : List Str) (printedGraphs : Str)
    (loadError : Str → Option Str) (operations : List (Operation CanonicalObject))
    {t : AssistantTables CanonicalObject}
    (h : exec (step (jsonSetting availableGraphs printedGraphs loadError)) .empty operations =
      some t) : Synced t :=
  exec_invariant (P := fun _ _ => True) (fun _ _ _ ht _ hstep => ht.step hstep) synced_empty
    (along_true _ _) h

/-! ### An update of the configuration -/

/-- `{"thread": key}` -/
def threadObject (key : String) : CanonicalObject where
  entries := [("thread", .str key)]
  canonical := .obj (List.pairwise_singleton _ _) (by simp [Json.Canonical.str])

/-- An assistant is created with a context, and given a configuration. -/
def configured : List (Operation CanonicalObject) :=
  [.create ⟨some "a".toList, none, none, some .empty, some (threadObject "x"), "agent".toList,
      none, none⟩ "u".toList none "b".toList 0 none,
    .update "a".toList ⟨none, none, some (CanonicalObject.empty.setObject "configurable"
      (threadObject "y")), "agent".toList, none, none⟩ "u".toList 1 none]

theorem synced_configured :
    ∃ t, exec (step (jsonSetting ["agent".toList] "['agent']".toList fun _ => none)) .empty
      configured = some t ∧
        (t.versions.rows.map fun v => v.context) =
          [some (threadObject "x"), some (threadObject "y")] ∧ Synced t :=
  ⟨_, rfl, by decide, synced_run _ _ _ configured rfl⟩

end AssistantService

end OpenLangGraph

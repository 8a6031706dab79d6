import OpenLangGraph.Foundation.PyString
import OpenLangGraph.Foundation.Table
import OpenLangGraph.Foundation.UnitOfWork

/-!
# Assistants and their versions

`services/assistant_service.py`: creation, update, deletion and rollback of assistants, as programs
over one session. What an assistant consists of is kept twice, in its row and in the row of the
version that its number points to. The two rows are written in different transactions.

## JSON

`config`, `context` and `metadata` are JSON objects of any type `ν`, up to the equality of `jsonb`.
What the service does with them is look up `configurable`, set it, and ask for emptiness.

## What may fail

Every statement and every commit, for a reason outside of the program, and the writes that a
constraint refuses. After the last commit the row is converted to the response model, which has no
place for a missing context.

## What is left out

The times of creation, the foreign keys to organizations and from runs, and the cache of
assistants, whose errors are swallowed.

## Main definitions

* `AssistantTables` — the two tables, with their keys and the foreign key between them
* `createAssistant`, `updateAssistant`, `setAssistantLatest`, `deleteAssistant` — the programs
-/

namespace OpenLangGraph

namespace AssistantService

open PyString UnitOfWork

/-! ### The tables -/

/-- A row of `assistant`. -/
structure Assistant (ν : Type) where
  assistantId : Str
  name : Str
  description : Option Str
  graphId : Str
  config : ν
  context : Option ν
  userId : Str
  orgId : Option Str
  version : ℤ
  metadata : ν
  updatedAt : ℕ
deriving DecidableEq

/-- A row of `assistant_versions`. -/
structure AssistantVersion (ν : Type) where
  assistantId : Str
  version : ℤ
  graphId : Str
  config : ν
  context : Option ν
  metadata : ν
  name : Str
  description : Option Str

variable {ν : Type}

def AssistantVersion.key (v : AssistantVersion ν) : Str × ℤ := (v.assistantId, v.version)

/-- The columns of `idx_assistant_user_graph_config`. -/
def Assistant.setup (a : Assistant ν) : Str × Str × ν := (a.userId, a.graphId, a.config)

/-- The tables: both keys are unique, as is the setup of an assistant, and every version belongs to
an assistant. -/
@[ext]
structure AssistantTables (ν : Type) where
  assistants : Table (Assistant.assistantId (ν := ν))
  versions : Table (AssistantVersion.key (ν := ν))
  setups : ∀ a ∈ assistants.rows, ∀ b ∈ assistants.rows, a.setup = b.setup →
    a.assistantId = b.assistantId
  references : ∀ v ∈ versions.rows, v.assistantId ∈ assistants.rows.map Assistant.assistantId

/-- What a version makes of an assistant: neither the update nor the rollback writes the
metadata. -/
def Assistant.withVersion (v : AssistantVersion ν) (now : ℕ) (a : Assistant ν) : Assistant ν :=
  { a with
    name := v.name
    description := v.description
    graphId := v.graphId
    config := v.config
    context := v.context
    version := v.version
    updatedAt := now }

namespace AssistantTables

variable [DecidableEq ν]

def empty : AssistantTables ν :=
  ⟨Table.empty, Table.empty, by simp [Table.empty], by simp [Table.empty]⟩

/-- Another assistant has the setup. -/
def isTaken (t : AssistantTables ν) (a : Assistant ν) : Bool :=
  t.assistants.rows.any fun b => b.setup = a.setup && b.assistantId ≠ a.assistantId

theorem eq_of_not_isTaken {t : AssistantTables ν} {a b : Assistant ν} (h : t.isTaken a = false)
    (hb : b ∈ t.assistants.rows) (hsetup : b.setup = a.setup) : b.assistantId = a.assistantId := by
  have hno := List.any_eq_false.mp h b hb
  simpa [hsetup] using hno

/-- `INSERT INTO assistant` -/
def insertAssistant (t : AssistantTables ν) (a : Assistant ν) : Option (AssistantTables ν) :=
  if htaken : t.isTaken a = false then
    match h : t.assistants.insert a with
    | none => none
    | some assistants => some
        { t with
          assistants
          setups := by
            obtain ⟨-, hrows⟩ := Table.insert_eq_some h
            rw [hrows]
            intro b hb c hc hsetup
            rw [List.mem_append, List.mem_singleton] at hb hc
            rcases hb with hb | rfl <;> rcases hc with hc | rfl
            · exact t.setups b hb c hc hsetup
            · exact eq_of_not_isTaken htaken hb hsetup
            · exact (eq_of_not_isTaken htaken hc hsetup.symm).symm
            · rfl
          references := by
            obtain ⟨-, hrows⟩ := Table.insert_eq_some h
            rw [hrows, List.map_append]
            exact fun v hv => List.mem_append_left _ (t.references v hv) }
  else none

/-- `UPDATE assistant SET … WHERE assistant_id = … AND user_id = …`, with the columns of a version.
It is refused if the setup of the new row is taken. -/
def updateAssistant (t : AssistantTables ν) (assistantId userId : Str) (v : AssistantVersion ν)
    (now : ℕ) : Option (AssistantTables ν) :=
  let p : Assistant ν → Bool := fun a => a.assistantId = assistantId && a.userId = userId
  if hfree : ∀ a ∈ t.assistants.rows, p a = true → t.isTaken (a.withVersion v now) = false then
    some
      { t with
        assistants := t.assistants.updateIf p (Assistant.withVersion v now) fun _ => rfl
        setups := by
          have hold : ∀ a ∈ t.assistants.rows, ∀ b ∈ t.assistants.rows,
              (if p a then a.withVersion v now else a).setup =
                (if p b then b.withVersion v now else b).setup →
                a.assistantId = b.assistantId := by
            intro a ha b hb hsetup
            by_cases hpa : p a = true <;> by_cases hpb : p b = true
            · simp only [p, Bool.and_eq_true, decide_eq_true_eq] at hpa hpb
              exact hpa.1.trans hpb.1.symm
            · rw [if_pos hpa, if_neg hpb] at hsetup
              exact (eq_of_not_isTaken (hfree a ha hpa) hb hsetup.symm).symm
            · rw [if_neg hpa, if_pos hpb] at hsetup
              exact (eq_of_not_isTaken (hfree b hb hpb) ha hsetup :
                a.assistantId = (b.withVersion v now).assistantId)
            · rw [if_neg hpa, if_neg hpb] at hsetup
              exact t.setups a ha b hb hsetup
          have hid : ∀ a : Assistant ν,
              (if p a then a.withVersion v now else a).assistantId = a.assistantId := by
            intro a
            split <;> rfl
          intro a' ha' b' hb' hsetup
          obtain ⟨a, ha, rfl⟩ := List.mem_map.mp ha'
          obtain ⟨b, hb, rfl⟩ := List.mem_map.mp hb'
          rw [hid, hid]
          exact hold a ha b hb hsetup
        references := by
          have hids : (t.assistants.updateIf p (Assistant.withVersion v now) fun _ => rfl).rows.map
              Assistant.assistantId = t.assistants.rows.map Assistant.assistantId := by
            show List.map _ (List.map _ _) = _
            rw [List.map_map]
            refine List.map_congr_left fun a _ => ?_
            rw [Function.comp_apply]
            split <;> rfl
          rw [hids]
          exact t.references }
  else none

omit [DecidableEq ν] in
/-- `DELETE FROM assistant`, with the versions of the assistant. -/
def deleteAssistant (t : AssistantTables ν) (assistantId : Str) : AssistantTables ν where
  assistants := t.assistants.deleteIf fun a => a.assistantId = assistantId
  versions := t.versions.deleteIf fun v => v.assistantId = assistantId
  setups a ha b hb := t.setups a (Table.mem_deleteIf ha) b (Table.mem_deleteIf hb)
  references := by
    intro v hv
    obtain ⟨hv, hne⟩ := List.mem_filter.mp hv
    obtain ⟨a, ha, hid⟩ := List.mem_map.mp (t.references v hv)
    refine List.mem_map.mpr ⟨a, List.mem_filter.mpr ⟨ha, ?_⟩, hid⟩
    simpa [hid] using hne

omit [DecidableEq ν] in
/-- `INSERT INTO assistant_versions` -/
def insertVersion (t : AssistantTables ν) (v : AssistantVersion ν) : Option (AssistantTables ν) :=
  if hreference : v.assistantId ∈ t.assistants.rows.map Assistant.assistantId then
    match h : t.versions.insert v with
    | none => none
    | some versions => some
        { t with
          versions
          references := by
            obtain ⟨-, hrows⟩ := Table.insert_eq_some h
            rw [hrows]
            intro w hw
            rw [List.mem_append, List.mem_singleton] at hw
            rcases hw with hw | rfl
            · exact t.references w hw
            · exact hreference }
  else none

omit [DecidableEq ν] in
/-- An assistant of a user. -/
def owned? (t : AssistantTables ν) (assistantId userId : Str) : Option (Assistant ν) :=
  t.assistants.rows.find? fun a => a.assistantId = assistantId && a.userId = userId

omit [DecidableEq ν] in
/-- `SELECT max(version)` -/
def maxVersion (t : AssistantTables ν) (assistantId : Str) : Option ℤ :=
  ((t.versions.rows.filter fun v => v.assistantId = assistantId).map AssistantVersion.version).max?

end AssistantTables

/-! ### Requests -/

structure AssistantCreate (ν : Type) where
  assistantId : Option Str
  name : Option Str
  description : Option Str
  config : Option ν
  context : Option ν
  graphId : Str
  metadata : Option ν
  ifExists : Option Str

structure AssistantUpdate (ν : Type) where
  name : Option Str
  description : Option Str
  config : Option ν
  graphId : Str
  context : Option ν
  metadata : Option ν

inductive AssistantError
  | httpException (statusCode : ℕ) (detail : Str)
  /-- a row is not a response -/
  | validationError

/-- What the service is given: the graphs of the server, and JSON objects. -/
structure Setting (ν : Type) where
  /-- `list_graphs()` -/
  availableGraphs : List Str
  /-- `list(available_graphs.keys())`, as it is printed -/
  printedGraphs : Str
  /-- What `get_graph` raises, as it is printed. -/
  loadError : Str → Option Str
  emptyObject : ν
  /-- `config.get("configurable")`, if it is an object -/
  configurable : ν → Option ν
  /-- `config["configurable"] = context` -/
  setConfigurable : ν → ν → ν

section

variable [DecidableEq ν] (setting : Setting ν)

/-- How `config` and `context` are made to agree. -/
def syncContext (detail : Str) (config context : Option ν) : Except AssistantError (ν × Option ν) :=
  let config := config.getD setting.emptyObject
  match setting.configurable config, context with
  | some section_, some context =>
    if context ≠ setting.emptyObject then .error (.httpException 400 detail)
    else .ok (config, some section_)
  | some section_, none => .ok (config, some section_)
  | none, some context => .ok (setting.setConfigurable config context, some context)
  | none, none => .ok (config, none)

/-- `to_pydantic`: the response has no place for a missing context. -/
def toPydantic (a : Assistant ν) : Except AssistantError (Assistant ν) :=
  if a.context.isSome then .ok a else .error .validationError

/-! ### Creation -/

/-- The row of a new assistant, unless the request is rejected. -/
def newAssistant (request : AssistantCreate ν) (userIdentity : Str) (orgId : Option Str)
    (uuid : Str) (now : ℕ) : Except AssistantError (Assistant ν) :=
  let graphId := request.graphId
  if graphId ∉ setting.availableGraphs then
    .error (.httpException 400 ("Graph '".toList ++ graphId ++
      "' not found in open_langgraph.json. Available: ".toList ++ setting.printedGraphs))
  else
    match setting.loadError graphId with
    | some e => .error (.httpException 400 ("Failed to load graph: ".toList ++ e))
    | none =>
      (syncContext setting
        ("Cannot specify both configurable and context. Prefer setting context alone. " ++
          "Context was introduced in LangGraph 0.6.0 and is the long term planned replacement " ++
          "for configurable.").toList request.config request.context).map fun (config, context) =>
        { assistantId := (truthy request.assistantId).getD uuid
          name := (truthy request.name).getD ("Assistant for ".toList ++ graphId)
          description := request.description
          graphId
          config
          context
          userId := userIdentity
          orgId
          version := 1
          metadata := request.metadata.getD setting.emptyObject
          updatedAt := now }

omit [DecidableEq ν] in
/-- The version that is kept of a new assistant. -/
def Assistant.firstVersion (a : Assistant ν) : AssistantVersion ν where
  assistantId := a.assistantId
  version := 1
  graphId := a.graphId
  config := a.config
  context := a.context
  metadata := a.metadata
  name := a.name
  description := a.description

/-- An assistant of the user with the setup or the id of a new one. -/
def AssistantTables.existing? (t : AssistantTables ν) (a : Assistant ν) : Option (Assistant ν) :=
  t.assistants.rows.find? fun b => b.userId = a.userId &&
    (b.graphId = a.graphId && b.config = a.config || b.assistantId = a.assistantId)

inductive CreatePoint
  | readingExisting
  | insertingAssistant
  | committingAssistant
  | refreshing
  | insertingVersion
  | committingVersion
deriving DecidableEq

abbrev AssistantProgram (ν σ β : Type) :=
  UnitOfWork.Program (AssistantTables ν) σ Empty AssistantError β

omit [DecidableEq ν] in
/-- A row as the response. -/
def respond {σ : Type} (a : Assistant ν) : AssistantProgram ν σ (Assistant ν) :=
  match toPydantic a with
  | .ok a => .done a
  | .error e => .raise e

def doNothing : Str := "do_nothing".toList

def alreadyExists (assistantId : Str) : AssistantError :=
  .httpException 409 ("Assistant '".toList ++ assistantId ++ "' already exists".toList)

/-- `create_assistant`, after the checks -/
def addAssistant (ifExists : Option Str) (a : Assistant ν) :
    AssistantProgram ν CreatePoint (Assistant ν) :=
  .query .readingExisting fun t =>
    match t.existing? a with
    | some existing =>
      if ifExists = some doNothing then respond existing else .raise (alreadyExists a.assistantId)
    | none =>
      .flush .insertingAssistant (·.insertAssistant a) <|
      .commit .committingAssistant <|
      .query .refreshing fun _ =>
      .flush .insertingVersion (·.insertVersion a.firstVersion) <|
      .commit .committingVersion <|
      respond a

/-- `create_assistant` -/
def createAssistant (request : AssistantCreate ν) (userIdentity : Str) (orgId : Option Str)
    (uuid : Str) (now : ℕ) : AssistantProgram ν CreatePoint (Assistant ν) :=
  match newAssistant setting request userIdentity orgId uuid now with
  | .error e => .raise e
  | .ok a => addAssistant request.ifExists a

/-! ### Update -/

def notFound (assistantId : Str) : AssistantError :=
  .httpException 404 ("Assistant '".toList ++ assistantId ++ "' not found".toList)

def notReloaded (assistantId : Str) : AssistantError :=
  .httpException 500
    ("Assistant '".toList ++ assistantId ++ "' was updated but could not be reloaded".toList)

/-- `new_version` -/
def newVersionNumber : Option ℤ → ℤ
  | none => 1
  | some maxVersion => (if maxVersion = 0 then 1 else maxVersion) + 1

/-- `new_version_details` -/
def newVersion (request : AssistantUpdate ν) (config : ν) (context : Option ν) (a : Assistant ν)
    (maxVersion : Option ℤ) : AssistantVersion ν where
  assistantId := a.assistantId
  version := newVersionNumber maxVersion
  graphId := if request.graphId = [] then a.graphId else request.graphId
  config
  context
  metadata := request.metadata.getD setting.emptyObject
  name := (truthy request.name).getD a.name
  description := (truthy request.description).or a.description

inductive UpdatePoint
  | readingAssistant
  | readingMaxVersion
  | insertingVersion
  | committingVersion
  | updatingAssistant
  | committingAssistant
  | reloading
deriving DecidableEq

/-- The row of an assistant after it was written. -/
def reload {σ : Type} (point : σ) (assistantId userIdentity : Str) :
    AssistantProgram ν σ (Assistant ν) :=
  .query point fun t =>
    match t.owned? assistantId userIdentity with
    | none => .raise (notReloaded assistantId)
    | some a => respond a

/-- `update_assistant`, after the assistant was found -/
def writeVersion (assistantId userIdentity : Str) (v : AssistantVersion ν) (now : ℕ) :
    AssistantProgram ν UpdatePoint (Assistant ν) :=
  .flush .insertingVersion (·.insertVersion v) <|
  .commit .committingVersion <|
  .flush .updatingAssistant (·.updateAssistant assistantId userIdentity v now) <|
  .commit .committingAssistant <|
  reload .reloading assistantId userIdentity

/-- The `config` and the `context` of an update. -/
def updatedContext (request : AssistantUpdate ν) : Except AssistantError (ν × Option ν) :=
  syncContext setting "Cannot specify both configurable and context. Use only one.".toList
    request.config request.context

/-- `update_assistant` -/
def updateAssistant (assistantId : Str) (request : AssistantUpdate ν) (userIdentity : Str)
    (now : ℕ) : AssistantProgram ν UpdatePoint (Assistant ν) :=
  match updatedContext setting request with
  | .error e => .raise e
  | .ok (config, context) =>
    .query .readingAssistant fun t =>
      match t.owned? assistantId userIdentity with
      | none => .raise (notFound assistantId)
      | some a =>
        .query .readingMaxVersion fun t =>
          writeVersion assistantId userIdentity
            (newVersion setting request config context a (t.maxVersion assistantId)) now

/-! ### Rollback and deletion -/

inductive LatestPoint
  | readingAssistant
  | readingVersion
  | updatingAssistant
  | committingAssistant
  | reloading
deriving DecidableEq

/-- `set_assistant_latest`, after the version was found -/
def restoreVersion (assistantId userIdentity : Str) (v : AssistantVersion ν) (now : ℕ) :
    AssistantProgram ν LatestPoint (Assistant ν) :=
  .flush .updatingAssistant (·.updateAssistant assistantId userIdentity v now) <|
  .commit .committingAssistant <|
  reload .reloading assistantId userIdentity

def versionNotFound (assistantId : Str) (version : ℤ) : AssistantError :=
  .httpException 404 ("Version '".toList ++ intRepr version ++ "' for Assistant '".toList ++
    assistantId ++ "' not found".toList)

/-- `set_assistant_latest` -/
def setAssistantLatest (assistantId : Str) (version : ℤ) (userIdentity : Str) (now : ℕ) :
    AssistantProgram ν LatestPoint (Assistant ν) :=
  .query .readingAssistant fun t =>
    match t.owned? assistantId userIdentity with
    | none => .raise (notFound assistantId)
    | some _ =>
      .query .readingVersion fun t =>
        match t.versions.find? (assistantId, version) with
        | none => .raise (versionNotFound assistantId version)
        | some v => restoreVersion assistantId userIdentity v now

inductive DeletePoint
  | readingAssistant
  | deletingAssistant
  | committingDeletion
deriving DecidableEq

omit [DecidableEq ν] in
/-- `delete_assistant` -/
def deleteAssistant (assistantId userIdentity : Str) : AssistantProgram ν DeletePoint Unit :=
  .query .readingAssistant fun t =>
    match t.owned? assistantId userIdentity with
    | none => .raise (notFound assistantId)
    | some a =>
      .flush .deletingAssistant (fun t => some (t.deleteAssistant a.assistantId)) <|
      .commit .committingDeletion <|
      .done ()

end

end AssistantService

end OpenLangGraph

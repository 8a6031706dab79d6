import OpenLangGraph.Foundation.PartialUpdate
import OpenLangGraph.Services.AssistantContext

/-!
# A partial update of an assistant

An update is meant to leave alone the fields that it does not send. The service sees the request
after the model has put its defaults in their place, and cannot tell the two apart.

## What is lost

* An update that does not send the graph moves the assistant to `agent`.
* An update that sends neither the configuration nor the context clears both.
* Text that is empty or null is taken for text that was not sent.
* The metadata of the row are never written.

## Main definitions

* `AssistantPatch`, `AssistantPatch.toUpdate` — what was sent, and the request the service sees
* `FieldsAsSent` — what is asked
* `AssistantPatch.Lands` — when it is so

## Main results

* `fields_as_sent_iff`
-/

namespace OpenLangGraph

namespace AssistantService

open PartialUpdate PyString UnitOfWork

/-- The fields that a client sends. All but the graph may be null. -/
structure AssistantPatch where
  name : Option (Option Str)
  description : Option (Option Str)
  config : Option (Option CanonicalObject)
  graphId : Option Str
  context : Option (Option CanonicalObject)
  metadata : Option (Option CanonicalObject)

/-- `AssistantUpdate`, with its defaults. -/
def AssistantPatch.toUpdate (p : AssistantPatch) : AssistantUpdate CanonicalObject where
  name := p.name.getD none
  description := p.description.getD none
  config := p.config.getD (some .empty)
  graphId := p.graphId.getD "agent".toList
  context := p.context.getD (some .empty)
  metadata := p.metadata.getD (some .empty)

/-! ### What is asked -/

/-- Every field is as sent. -/
structure FieldsAsSent (p : AssistantPatch) (a a' : Assistant CanonicalObject) : Prop where
  name : AsSent p.name (some a.name) (some a'.name)
  description : AsSent p.description a.description a'.description
  graphId : AsSent p.graphId a.graphId a'.graphId
  config : AsSent p.config (some a.config) (some a'.config)
  context : AsSent p.context a.context a'.context
  metadata : AsSent p.metadata (some a.metadata) (some a'.metadata)

/-! ### The condition -/

/-- The configuration that an update is taken to ask for, before the context is put into it. -/
def AssistantPatch.sentConfig (p : AssistantPatch) : CanonicalObject :=
  (p.config.getD none).getD .empty

/-- Text that was sent is not empty, or it is what is stored. -/
def TextLands (sent : Option (Option Str)) (old : Option Str) : Prop :=
  ∀ s, sent = some s → s = old ∨ ∃ text, s = some text ∧ text ≠ []

/-- A configuration was sent with a `configurable` object in it; or none was sent, and the stored
one has nothing but the context. -/
def ConfigLands (p : AssistantPatch) (old : CanonicalObject) : Prop :=
  match p.config with
  | some sent => ∃ config, sent = some config ∧ (config.object? "configurable").isSome = true
  | none => old = CanonicalObject.empty.setObject "configurable"
      ((p.context.getD none).getD .empty)

/-- A context was sent that no `configurable` object overrides; or none was sent, and the stored one
is what the configuration has, or empty. -/
def ContextLands (p : AssistantPatch) (old : Option CanonicalObject) : Prop :=
  match p.context with
  | some sent => ∃ context, sent = some context ∧
      (p.sentConfig.object? "configurable").getD context = context
  | none => old = some ((p.sentConfig.object? "configurable").getD .empty)

/-- **The updates that do what was sent.** -/
structure AssistantPatch.Lands (p : AssistantPatch) (a : Assistant CanonicalObject) : Prop where
  name : TextLands p.name (some a.name)
  description : TextLands p.description a.description
  graphId : ∀ graphId, p.graphId = some graphId → graphId = [] → a.graphId = []
  graphId_default : p.graphId = none → a.graphId = "agent".toList
  config : ConfigLands p a.config
  context : ContextLands p a.context
  metadata : ∀ sent, p.metadata = some sent → sent = some a.metadata

/-! ### What is written -/

section

variable {availableGraphs : List Str} {printedGraphs : Str} {loadError : Str → Option Str}
  {t : AssistantTables CanonicalObject} {a a' : Assistant CanonicalObject} {p : AssistantPatch}
  {assistantId userId : Str} {now : ℕ} {fault : Option (Fault UpdatePoint)}

/-- What a request is made to say, if it has a context then. -/
theorem syncContext_eq_ok {detail : Str} {config context : Option CanonicalObject}
    {config' context' : CanonicalObject}
    (h : syncContext (jsonSetting availableGraphs printedGraphs loadError) detail config context =
      .ok (config', some context')) :
    (config.getD .empty).object? "configurable" = some context' ∧ config' = config.getD .empty ∧
        (context = none ∨ context = some .empty) ∨
      (config.getD .empty).object? "configurable" = none ∧ context = some context' ∧
        config' = (config.getD .empty).setObject "configurable" context' := by
  rw [syncContext.eq_def] at h
  dsimp only at h
  split at h
  · next hsection =>
    split at h
    · cases h
    · next hempty =>
      cases h
      exact .inl ⟨hsection, rfl, .inr (congrArg some (not_not.mp hempty))⟩
  · next hsection =>
    cases h
    exact .inl ⟨hsection, rfl, .inl rfl⟩
  · next hsection =>
    cases h
    exact .inr ⟨hsection, rfl, rfl⟩
  · cases h

/-- The row of an assistant after an update that succeeds. -/
theorem exists_of_updated {setting : Setting CanonicalObject}
    {request : AssistantUpdate CanonicalObject} (howned : t.owned? assistantId userId = some a)
    (hsuccess : (outcome t (updateAssistant setting assistantId request userId now) fault).raises =
      false)
    (howned' : (outcome t (updateAssistant setting assistantId request userId now)
      fault).tables.owned? assistantId userId = some a') :
    ∃ config context, updatedContext setting request = .ok (config, some context) ∧
      a' = a.withVersion (newVersion setting request config (some context) a
        (t.maxVersion assistantId)) now := by
  cases hcontext : updatedContext setting request with
  | error e =>
    have hraises : (outcome t (updateAssistant setting assistantId request userId now)
        fault).raises = true := by
      rw [updateAssistant, hcontext]
      rfl
    cases hraises.symm.trans hsuccess
  | ok both =>
    obtain ⟨config, context⟩ := both
    obtain ⟨t₁, h₁⟩ := exists_newVersion setting request config context howned
    have hoc := outcome_updated setting request now hcontext howned rfl h₁ fault
    cases fault with
    | some f => cases hoc.1.symm.trans hsuccess
    | none =>
      have howned₁ : t₁.owned? assistantId userId = some a := by
        rw [AssistantTables.owned?, (insertVersion_eq_some h₁).1, ← AssistantTables.owned?, howned]
      dsimp only at hoc
      split at hoc
      · rw [hoc] at hsuccess
        cases hsuccess
      · next t₂ h₂ =>
        rw [hoc] at hsuccess howned'
        cases context with
        | none => cases hsuccess
        | some context =>
          exact ⟨config, context, rfl,
            Option.some.inj (howned'.symm.trans (owned?_updated h₂ howned₁))⟩

/-! ### Field by field -/

theorem asSent_text_iff (sent : Option (Option Str)) (old : Option Str) :
    AsSent sent old ((truthy (sent.getD none)).or old) ↔ TextLands sent old := by
  rw [AsSent, TextLands]
  cases sent with
  | none => simp [truthy]
  | some s =>
    cases s with
    | none => simp [truthy, eq_comm]
    | some text =>
      by_cases h : text = []
      · simp [truthy, h, Option.filter_some, eq_comm]
      · simp [truthy, h, Option.filter_some]

theorem asSent_graphId_iff {agent : Str} (hagent : agent ≠ []) (sent : Option Str) (old : Str) :
    AsSent sent old (if sent.getD agent = [] then old else sent.getD agent) ↔
      (∀ graphId, sent = some graphId → graphId = [] → old = []) ∧
        (sent = none → old = agent) := by
  rw [AsSent]
  cases sent with
  | none => simp [hagent, eq_comm]
  | some graphId => by_cases h : graphId = [] <;> simp [h]

theorem getD_config_toUpdate (p : AssistantPatch) :
    p.toUpdate.config.getD .empty = p.sentConfig := by
  rw [AssistantPatch.sentConfig, AssistantPatch.toUpdate]
  cases p.config <;> rfl

/-- The context is put under `configurable` unless the configuration has an object there. -/
theorem asSent_config_iff {config' context' old : CanonicalObject}
    (h : updatedContext (jsonSetting availableGraphs printedGraphs loadError) p.toUpdate =
      .ok (config', some context')) :
    AsSent p.config (some old) (some config') ↔ ConfigLands p old := by
  have hcases := syncContext_eq_ok h
  rw [getD_config_toUpdate] at hcases
  rw [AsSent, ConfigLands]
  cases hp : p.config with
  | none =>
    have hsent : p.sentConfig = .empty := by rw [AssistantPatch.sentConfig, hp]; rfl
    rw [hsent, CanonicalObject.object?_empty] at hcases
    rcases hcases with ⟨hsection, -⟩ | ⟨-, hcontext, rfl⟩
    · cases hsection
    · have hget : (p.context.getD none).getD .empty = context' := by
        rw [AssistantPatch.toUpdate] at hcontext
        cases hpc : p.context with
        | none =>
          rw [hpc] at hcontext
          exact Option.some.inj hcontext
        | some sent =>
          rw [hpc] at hcontext
          obtain rfl : sent = some context' := hcontext
          rfl
      rw [hget]
      exact ⟨fun h => (Option.some.inj h).symm, fun h => congrArg some h.symm⟩
  | some sent =>
    have hsent : p.sentConfig = sent.getD .empty := by rw [AssistantPatch.sentConfig, hp]; rfl
    rw [hsent] at hcases
    rw [Option.getD_some]
    cases sent with
    | none => simp
    | some config =>
      rw [Option.getD_some] at hcases
      rcases hcases with ⟨hsection, rfl, -⟩ | ⟨hsection, -, rfl⟩
      · exact iff_of_true rfl ⟨_, rfl, by rw [hsection]; rfl⟩
      · refine iff_of_false (fun hsame => ?_) ?_
        · have hset := CanonicalObject.object?_setObject config "configurable" context'
          rw [Option.some.inj hsame, hsection] at hset
          cases hset
        · rintro ⟨c, hc, hsome⟩
          rw [← Option.some.inj hc, hsection] at hsome
          cases hsome

theorem asSent_context_iff {config' context' : CanonicalObject} {old : Option CanonicalObject}
    (h : updatedContext (jsonSetting availableGraphs printedGraphs loadError) p.toUpdate =
      .ok (config', some context')) :
    AsSent p.context old (some context') ↔ ContextLands p old := by
  have hcases := syncContext_eq_ok h
  rw [getD_config_toUpdate] at hcases
  rw [AsSent, ContextLands]
  cases hp : p.context with
  | none =>
    have hcontext : p.toUpdate.context = some .empty := by
      rw [AssistantPatch.toUpdate, hp]
      rfl
    rw [hcontext] at hcases
    have hget : (p.sentConfig.object? "configurable").getD .empty = context' := by
      rcases hcases with ⟨hsection, -⟩ | ⟨hsection, hempty, -⟩
      · rw [hsection]
        rfl
      · rw [hsection]
        exact Option.some.inj hempty
    rw [hget]
    exact ⟨Eq.symm, Eq.symm⟩
  | some sent =>
    have hcontext : p.toUpdate.context = sent := by
      rw [AssistantPatch.toUpdate, hp]
      rfl
    rw [hcontext] at hcases
    rw [Option.getD_some]
    rcases hcases with ⟨hsection, -⟩ | ⟨hsection, rfl, -⟩
    · rw [hsection]
      constructor
      · rintro rfl
        exact ⟨context', rfl, rfl⟩
      · rintro ⟨context, rfl, hsame⟩
        exact congrArg some hsame
    · exact iff_of_true rfl ⟨context', rfl, by rw [hsection]; rfl⟩

/-- **A partial update** does what was sent exactly if every field of it lands. -/
theorem fields_as_sent_iff (availableGraphs : List Str) (printedGraphs : Str)
    (loadError : Str → Option Str) (t : AssistantTables CanonicalObject) (p : AssistantPatch)
    (assistantId userId : Str) (now : ℕ) (fault : Option (Fault UpdatePoint))
    {a a' : Assistant CanonicalObject} (howned : t.owned? assistantId userId = some a)
    (hsuccess : (outcome t (updateAssistant (jsonSetting availableGraphs printedGraphs loadError)
      assistantId p.toUpdate userId now) fault).raises = false)
    (howned' : (outcome t (updateAssistant (jsonSetting availableGraphs printedGraphs loadError)
      assistantId p.toUpdate userId now) fault).tables.owned? assistantId userId = some a') :
    FieldsAsSent p a a' ↔ p.Lands a := by
  obtain ⟨config, context, hboth, rfl⟩ := exists_of_updated howned hsuccess howned'
  have hname := asSent_text_iff p.name (some a.name)
  have hgraph := asSent_graphId_iff (show "agent".toList ≠ [] by decide) p.graphId a.graphId
  have hmetadata := @asSent_self_iff _ p.metadata (some a.metadata)
  have hor : ∀ s : Option Str, s.or (some a.name) = some (s.getD a.name) := by
    intro s
    cases s <;> rfl
  rw [hor] at hname
  constructor
  · rintro ⟨h₁, h₂, h₃, h₄, h₅, h₆⟩
    exact ⟨hname.mp h₁, (asSent_text_iff _ _).mp h₂, (hgraph.mp h₃).1, (hgraph.mp h₃).2,
      (asSent_config_iff hboth).mp h₄, (asSent_context_iff hboth).mp h₅, hmetadata.mp h₆⟩
  · rintro ⟨h₁, h₂, h₃, h₃', h₄, h₅, h₆⟩
    exact ⟨hname.mpr h₁, (asSent_text_iff _ _).mpr h₂, hgraph.mpr ⟨h₃, h₃'⟩,
      (asSent_config_iff hboth).mpr h₄, (asSent_context_iff hboth).mpr h₅, hmetadata.mpr h₆⟩

end

/-! ### A name is sent -/

/-- An assistant with a context. -/
def configuredAssistant : Assistant CanonicalObject where
  assistantId := "a".toList
  name := "Assistant for agent".toList
  description := none
  graphId := "agent".toList
  config := CanonicalObject.empty.setObject "configurable" (threadObject "x")
  context := some (threadObject "x")
  userId := "u".toList
  orgId := none
  version := 1
  metadata := .empty
  updatedAt := 0

def configuredTables : AssistantTables CanonicalObject where
  assistants := ⟨[configuredAssistant], by simp⟩
  versions := ⟨[configuredAssistant.firstVersion], by simp⟩
  setups a ha b hb _ := by rw [List.mem_singleton.mp ha, List.mem_singleton.mp hb]
  references v hv := by
    rw [List.mem_singleton.mp hv]
    exact List.mem_singleton_self _

/-- The request sends the name, and this context. -/
def namePatch (context : Option (Option CanonicalObject)) : AssistantPatch :=
  ⟨some (some "weather".toList), none, none, none, context, none⟩

/-- With the context, nothing is lost. -/
theorem fields_as_sent_name_context :
    ∃ a', (outcome configuredTables (updateAssistant
      (jsonSetting ["agent".toList] "['agent']".toList fun _ => none) "a".toList
      (namePatch (some (some (threadObject "x")))).toUpdate "u".toList 1)
        none).tables.owned? "a".toList "u".toList = some a' ∧
      FieldsAsSent (namePatch (some (some (threadObject "x")))) configuredAssistant a' :=
  ⟨_, rfl, (fields_as_sent_iff _ _ _ configuredTables _ "a".toList "u".toList 1 none rfl rfl
    rfl).mpr
      { name := fun s hs => .inr ⟨"weather".toList, (Option.some.inj hs).symm, by decide⟩
        description := fun s hs => by cases hs
        graphId := fun graphId hgraph => by cases hgraph
        graphId_default := fun _ => rfl
        config := rfl
        context := ⟨_, rfl, rfl⟩
        metadata := fun s hs => by cases hs }⟩

/-- Without it, the context is cleared. -/
theorem fields_not_as_sent :
    ¬ ∀ (t : AssistantTables CanonicalObject) (p : AssistantPatch)
      (a a' : Assistant CanonicalObject) (o : Outcome CanonicalObject),
      o = outcome t (updateAssistant
        (jsonSetting ["agent".toList] "['agent']".toList fun _ => none) "a".toList p.toUpdate
          "u".toList 1) none →
      t.owned? "a".toList "u".toList = some a → o.raises = false →
      o.tables.owned? "a".toList "u".toList = some a' → FieldsAsSent p a a' := by
  intro hall
  have hsent := hall configuredTables (namePatch none) configuredAssistant _ _ rfl rfl rfl rfl
  have hcontext : some CanonicalObject.empty = some (threadObject "x") := hsent.context
  exact absurd hcontext (by decide)

end AssistantService

end OpenLangGraph

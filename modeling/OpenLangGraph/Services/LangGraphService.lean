import OpenLangGraph.Foundation.PyDict
import OpenLangGraph.Foundation.PyVal

/-!
# The configuration of a run

`create_run_config`, `create_thread_config` and `inject_user_context` of
`services/langgraph_service.py`. What a graph executes on is decided by the `configurable` member
of the configuration alone: its `thread_id` names the checkpoint thread.

## Who decides

The functions are additive: a value that the client has set is not overwritten, and a checkpoint
dictionary is written over everything before it. So `clientValue`, what the checkpoint or else the
client's `configurable` says of a key, decides; the server's own value is the default. This is so
for `thread_id`, `user_id` and `langgraph_auth_user` alike.

## Implementation notes

Configurations are values here. That `create_thread_config` writes into the client's own
`configurable` dictionary, which `create_run_config` avoids by a deep copy, is not seen.

## Main definitions

* `injectUserContext`, `createThreadConfig`, `createRunConfig`
* `clientValue` — what the client says of a key

## Main results

* `createRunConfig_decided_by_client` — who decides on which thread and as which user a run executes
-/

namespace OpenLangGraph

/-- A Python dictionary whose values are arbitrary. -/
abbrev PyObject := List (PyKey × PyVal)

/-- What the functions read of the authenticated user. `payload` is what `user.to_dict()` returns,
`none` if there is no such method, or it fails, or its value is no dictionary. -/
structure AuthUser where
  identity : String
  displayName : Option String
  payload : Option PyObject

/-- The payload for graph nodes, with its fallback. -/
def AuthUser.authPayload (user : AuthUser) : PyVal :=
  .dict (user.payload.getD [(.str "identity", .str user.identity)])

/-- `display_name or identity` -/
def AuthUser.shownName (user : AuthUser) : PyVal :=
  match user.displayName with
  | none | some "" => .str user.identity
  | some name => .str name

/-- The exceptions that a client's configuration can cause. -/
inductive ConfigError
  /-- `cfg["configurable"].setdefault` on a value that is no dictionary -/
  | attributeError
  /-- `cfg["metadata"][…] = …` on a value that is no dictionary -/
  | typeError
deriving DecidableEq

namespace LangGraphService

/-- `d["k"] = v` -/
def setItem (d : PyObject) (k : String) (v : PyVal) : PyObject := PyDict.set d (.str k) v

/-- `d.setdefault("k", v)` -/
def setdefault (d : PyObject) (k : String) (v : PyVal) : PyObject := PyDict.setdefault d (.str k) v

theorem get_setItem (d : PyObject) (k k' : String) (v : PyVal) :
    PyVal.get (setItem d k v) k' = if k' = k then some v else PyVal.get d k' := by
  simp only [PyVal.get, setItem, PyDict.lookup_set, PyKey.str.injEq]

theorem get_setdefault (d : PyObject) (k k' : String) (v : PyVal) :
    PyVal.get (setdefault d k v) k' =
      if k' = k then some ((PyVal.get d k).getD v) else PyVal.get d k' := by
  simp only [PyVal.get, setdefault, PyDict.lookup_setdefault, PyKey.str.injEq]

/-! ### The functions -/

/-- What `inject_user_context` adds to the `configurable` dictionary. -/
def withUser (user : AuthUser) (configurable : PyObject) : PyObject :=
  let configurable := setdefault configurable "user_id" (.str user.identity)
  let configurable := setdefault configurable "user_display_name" user.shownName
  setdefault configurable "langgraph_auth_user" user.authPayload

/-- `inject_user_context` -/
def injectUserContext (user : Option AuthUser) (config : PyObject) : PyObject :=
  let configurable := ((PyVal.get config "configurable").bind PyVal.asDict).getD []
  setItem config "configurable" (.dict (user.elim configurable (withUser · configurable)))

/-- `create_thread_config` -/
def createThreadConfig (threadId : String) (user : Option AuthUser)
    (additionalConfig : Option PyObject) : PyObject :=
  let baseConfig : PyObject :=
    [(.str "configurable", .dict [(.str "thread_id", .str threadId)])]
  injectUserContext user (PyDict.update baseConfig (additionalConfig.getD []))

/-- The tags that a run carries in the tracing system. -/
def tracingTags (runId threadId : String) (user : Option AuthUser) : PyVal :=
  .list ([.str "open_langgraph_run", .str ("run:" ++ runId), .str ("thread:" ++ threadId)] ++
    user.elim [] fun user => [.str ("user:" ++ user.identity)])

/-- The tracing part of `create_run_config`. -/
def addTracing (tracingCallbacks : List PyVal) (runId threadId : String) (user : Option AuthUser)
    (cfg : PyObject) : Except ConfigError PyObject :=
  if tracingCallbacks = [] then .ok cfg
  else
    let existingCallbacks := match PyVal.get cfg "callbacks" with
      | some (.list callbacks) => callbacks
      | _ => []
    let cfg := setItem cfg "callbacks" (.list (existingCallbacks ++ tracingCallbacks))
    let cfg := setdefault cfg "metadata" (.dict [])
    match (PyVal.get cfg "metadata").bind PyVal.asDict with
    | none => .error .typeError
    | some metadata =>
      let metadata := setItem metadata "langfuse_session_id" (.str threadId)
      let metadata := user.elim metadata fun user =>
        setItem metadata "langfuse_user_id" (.str user.identity)
      let metadata := setItem metadata "langfuse_tags" (tracingTags runId threadId user)
      .ok (setItem cfg "metadata" (.dict metadata))

/-- `{k: v for k, v in checkpoint.items() if v is not None}` -/
def withoutNone (checkpoint : PyObject) : PyObject :=
  checkpoint.filter fun entry => match entry.2 with
    | .none => false
    | _ => true

/-- `create_run_config` -/
def createRunConfig (tracingCallbacks : List PyVal) (runId threadId : String)
    (user : Option AuthUser) (additionalConfig checkpoint : Option PyObject) :
    Except ConfigError PyObject := do
  let cfg := setdefault (additionalConfig.getD []) "configurable" (.dict [])
  match (PyVal.get cfg "configurable").bind PyVal.asDict with
  | none => .error .attributeError
  | some configurable =>
    let configurable := setdefault configurable "thread_id" (.str threadId)
    let configurable := setdefault configurable "run_id" (.str runId)
    let cfg ← addTracing tracingCallbacks runId threadId user cfg
    let configurable := PyDict.update configurable (withoutNone (checkpoint.getD []))
    return injectUserContext user (setItem cfg "configurable" (.dict configurable))

/-- The checkpoint thread that a configuration names. -/
def checkpointThread (config : PyObject) : Option String :=
  match (PyVal.get config "configurable").bind PyVal.asDict with
  | none => none
  | some configurable => match PyVal.get configurable "thread_id" with
    | some (.str threadId) => some threadId
    | _ => none

/-! ### Who decides on a key -/

/-- What the client says of a key: its checkpoint first, then its `configurable`. -/
def clientValue (additionalConfig checkpoint : Option PyObject) (key : String) : Option PyVal :=
  (PyVal.get (PyDict.update [] (withoutNone (checkpoint.getD []))) key).or
    (((PyVal.get (additionalConfig.getD []) "configurable").bind PyVal.asDict).bind
      (PyVal.get · key))

/-- The member is there, and is no dictionary. -/
def unusable (config : PyObject) (key : String) : Bool :=
  match PyVal.get config key with
  | none => false
  | some value => value.asDict.isNone

/-- A dictionary that is there, or else the default, is what a `setdefault` leaves. -/
theorem asDict_setdefault (config : PyObject) (key : String) :
    (PyVal.get (setdefault config key (.dict [])) key).bind PyVal.asDict =
      if unusable config key then none
      else some (((PyVal.get config key).bind PyVal.asDict).getD []) := by
  rw [get_setdefault, if_pos rfl, unusable]
  cases PyVal.get config key with
  | none => rfl
  | some value =>
    show value.asDict = if value.asDict.isNone then none else some (value.asDict.getD [])
    cases value.asDict <;> rfl

theorem get_update (d es : PyObject) (key : String) :
    PyVal.get (PyDict.update d es) key =
      (PyVal.get (PyDict.update [] es) key).or (PyVal.get d key) :=
  PyDict.lookup_update d es (.str key)

/-- The user context is added inside the `configurable` dictionary. -/
theorem get_injectUserContext (user : Option AuthUser) (config : PyObject) :
    PyVal.get (injectUserContext user config) "configurable" =
      let configurable := ((PyVal.get config "configurable").bind PyVal.asDict).getD []
      some (.dict (user.elim configurable (withUser · configurable))) := by
  rw [injectUserContext, get_setItem, if_pos rfl]

theorem get_withUser_threadId (user : AuthUser) (configurable : PyObject) :
    PyVal.get (withUser user configurable) "thread_id" = PyVal.get configurable "thread_id" := by
  simp [withUser, get_setdefault]

theorem get_withUser_userId (user : AuthUser) (configurable : PyObject) :
    PyVal.get (withUser user configurable) "user_id" =
      some ((PyVal.get configurable "user_id").getD (.str user.identity)) := by
  simp [withUser, get_setdefault]

theorem get_withUser_authUser (user : AuthUser) (configurable : PyObject) :
    PyVal.get (withUser user configurable) "langgraph_auth_user" =
      some ((PyVal.get configurable "langgraph_auth_user").getD user.authPayload) := by
  simp [withUser, get_setdefault]

/-- Tracing fails only if the client's metadata cannot be written to. -/
theorem addTracing_eq_error {tracingCallbacks : List PyVal} {runId threadId : String}
    {user : Option AuthUser} {cfg : PyObject} {e : ConfigError}
    (h : addTracing tracingCallbacks runId threadId user cfg = .error e) :
    tracingCallbacks ≠ [] ∧ unusable cfg "metadata" = true := by
  rw [addTracing] at h
  by_cases hcallbacks : tracingCallbacks = []
  · rw [if_pos hcallbacks] at h
    cases h
  · refine ⟨hcallbacks, ?_⟩
    rw [if_neg hcallbacks] at h
    dsimp only at h
    rw [asDict_setdefault] at h
    have hother : ∀ v, unusable (setItem cfg "callbacks" v) "metadata" = unusable cfg "metadata" :=
      fun v => by rw [unusable, get_setItem, if_neg (by decide), unusable]
    rw [hother] at h
    by_contra hmetadata
    rw [if_neg hmetadata] at h
    cases h

/-- The `configurable` dictionary before the user context is added. -/
def runConfigurable (runId threadId : String) (additionalConfig checkpoint : Option PyObject) :
    PyObject :=
  let configurable :=
    ((PyVal.get (additionalConfig.getD []) "configurable").bind PyVal.asDict).getD []
  PyDict.update (setdefault (setdefault configurable "thread_id" (.str threadId)) "run_id"
    (.str runId)) (withoutNone (checkpoint.getD []))

/-- A configuration is built unless the client's cannot be written to. -/
theorem createRunConfig_cases (tracingCallbacks : List PyVal) (runId threadId : String)
    (user : Option AuthUser) (additionalConfig checkpoint : Option PyObject) :
    match createRunConfig tracingCallbacks runId threadId user additionalConfig checkpoint with
    | .ok cfg =>
      let configurable := runConfigurable runId threadId additionalConfig checkpoint
      PyVal.get cfg "configurable" =
        some (.dict (user.elim configurable (withUser · configurable)))
    | .error _ => unusable (additionalConfig.getD []) "configurable" = true ∨
        (tracingCallbacks ≠ [] ∧ unusable (additionalConfig.getD []) "metadata" = true) := by
  rw [createRunConfig, asDict_setdefault]
  by_cases hconfigurable : unusable (additionalConfig.getD []) "configurable" = true
  · rw [if_pos hconfigurable]
    exact .inl hconfigurable
  · rw [if_neg hconfigurable]
    dsimp only
    cases htracing : addTracing tracingCallbacks runId threadId user
        (setdefault (additionalConfig.getD []) "configurable" (.dict [])) with
    | error e =>
      obtain ⟨hcallbacks, hmetadata⟩ := addTracing_eq_error htracing
      rw [unusable, get_setdefault, if_neg (by decide)] at hmetadata
      exact .inr ⟨hcallbacks, hmetadata⟩
    | ok cfg =>
      show PyVal.get (injectUserContext user (setItem cfg "configurable" _)) "configurable" = _
      rw [get_injectUserContext, get_setItem, if_pos rfl]
      rfl

/-- The client's value wins over the server's default. -/
theorem get_runConfigurable (runId threadId : String)
    (additionalConfig checkpoint : Option PyObject) (key : String) (hkey : key ≠ "run_id") :
    PyVal.get (runConfigurable runId threadId additionalConfig checkpoint) key =
      (clientValue additionalConfig checkpoint key).or
        (if key = "thread_id" then some (.str threadId) else none) := by
  rw [runConfigurable, get_update, get_setdefault, if_neg hkey, get_setdefault, clientValue,
    Option.or_assoc]
  have hclient : ∀ d : Option PyObject, PyVal.get (d.getD []) key = d.bind (PyVal.get · key) := by
    intro d
    cases d <;> rfl
  congr 1
  by_cases hthread : key = "thread_id"
  · subst hthread
    rw [if_pos rfl, if_pos rfl, hclient]
    cases ((PyVal.get (additionalConfig.getD []) "configurable").bind PyVal.asDict).bind
      (PyVal.get · "thread_id") <;> rfl
  · rw [if_neg hthread, if_neg hthread, hclient, Option.or_none]

/-- **The client decides.** The thread that a run executes on and the user as whom it executes are
those that the checkpoint or the client's `configurable` names, and else the thread of the request
and the authenticated user. -/
theorem createRunConfig_decided_by_client (tracingCallbacks : List PyVal) (runId threadId : String)
    (user : AuthUser) (additionalConfig checkpoint : Option PyObject) :
    (match createRunConfig tracingCallbacks runId threadId (some user) additionalConfig
        checkpoint with
      | .ok cfg => ∃ configurable, PyVal.get cfg "configurable" = some (.dict configurable) ∧
          PyVal.get configurable "thread_id" =
            some ((clientValue additionalConfig checkpoint "thread_id").getD (.str threadId)) ∧
          PyVal.get configurable "user_id" =
            some ((clientValue additionalConfig checkpoint "user_id").getD
              (.str user.identity)) ∧
          PyVal.get configurable "langgraph_auth_user" =
            some ((clientValue additionalConfig checkpoint "langgraph_auth_user").getD
              user.authPayload)
      | .error _ => unusable (additionalConfig.getD []) "configurable" = true ∨
          (tracingCallbacks ≠ [] ∧ unusable (additionalConfig.getD []) "metadata" = true)) ∧
    (PyVal.get (additionalConfig.getD []) "configurable" = none →
      ∃ configurable, PyVal.get (createThreadConfig threadId (some user) additionalConfig)
          "configurable" = some (.dict configurable) ∧
        PyVal.get configurable "thread_id" = some (.str threadId)) := by
  constructor
  · have hcases := createRunConfig_cases tracingCallbacks runId threadId (some user)
      additionalConfig checkpoint
    split at hcases <;> rename_i hrun
    · refine ⟨_, hcases, ?_, ?_, ?_⟩
      · rw [Option.elim_some, get_withUser_threadId, get_runConfigurable _ _ _ _ _ (by decide),
          if_pos rfl, Option.or_some]
      · rw [Option.elim_some, get_withUser_userId, get_runConfigurable _ _ _ _ _ (by decide),
          if_neg (by decide), Option.or_none]
      · rw [Option.elim_some, get_withUser_authUser, get_runConfigurable _ _ _ _ _ (by decide),
          if_neg (by decide), Option.or_none]
    · exact hcases
  · intro habsent
    refine ⟨_, get_injectUserContext _ _, ?_⟩
    rw [PyVal.get] at habsent
    rw [Option.elim_some, get_withUser_threadId, PyVal.get, PyVal.get,
      PyDict.lookup_update_of_absent _ habsent]
    rfl

/-- A client that names nothing runs on its own thread. -/
theorem createRunConfig_alice :
    ∃ configurable, PyVal.get (createThreadConfig "alice-thread" (some ⟨"alice", none, none⟩) none)
        "configurable" = some (.dict configurable) ∧
      PyVal.get configurable "thread_id" = some (.str "alice-thread") :=
  (createRunConfig_decided_by_client [] "run" "alice-thread" ⟨"alice", none, none⟩ none none).2 rfl

/-- Alice's client names Bob's thread and Bob, and her run executes there as him. -/
theorem runs_on_the_thread_of_another :
    ∃ cfg configurable,
      createRunConfig [] "run" "alice-thread" (some ⟨"alice", none, none⟩)
        (some [(.str "configurable",
          .dict [(.str "thread_id", .str "bob-thread"), (.str "user_id", .str "bob")])]) none =
        .ok cfg ∧
      PyVal.get cfg "configurable" = some (.dict configurable) ∧
      PyVal.get configurable "thread_id" = some (.str "bob-thread") ∧
      PyVal.get configurable "user_id" = some (.str "bob") :=
  ⟨_, _, rfl, rfl, rfl, rfl⟩

end LangGraphService

end OpenLangGraph

import Mathlib.Data.List.Infix
import OpenLangGraph.Core.Orm
import OpenLangGraph.Services.LangGraphService

/-!
# The history of a thread

`get_thread_history_post` of `api/threads.py`. The access check is about the thread of the path. The
history is read with a configuration in which the `configurable` dictionary of
`create_thread_config` is updated with the checkpoint dictionary of the request, whatever the keys
of that are. So a checkpoint that names a `thread_id` or a `user_id` replaces the one that was
checked.

## What is left out

The conversion of a snapshot, and the graphs: they are parameters. The flag `subgraphs` is read and
then used for the log only.

## Main definitions

* `openHistory`, `getThreadHistoryPost`
* `ThreadHistoryRequest.namesNoOther` — the checkpoint leaves the thread and the user alone

## Main results

* `stays_on_thread_iff` — which requests stay on the thread of the path
* `snapshots_of_thread` — what they return
-/

namespace OpenLangGraph

namespace ThreadHistory

open LangGraphService

/-! ### Requests -/

/-- A request whose fields are valid. -/
structure ThreadHistoryRequest where
  limit : Option ℤ
  before : Option String
  metadata : Option PyObject
  checkpoint : Option PyObject
  checkpointNs : Option String
  limit_bounds : ∀ n ∈ limit, 1 ≤ n ∧ n ≤ 1000
  checkpoint_unique : ∀ c ∈ checkpoint, (c.map Prod.fst).Nodup

/-- The arguments of `aget_state_history`. -/
structure HistoryQuery where
  config : PyObject
  filter : Option PyObject
  before : Option PyObject
  limit : ℤ

inductive HistoryError
  | httpException (statusCode : ℕ) (detail : String)

/-- The graphs, and what their checkpointer returns. A failure is the text of its exception. -/
structure Graphs (γ σ τ : Type) where
  getGraph : Json → Except String γ
  agetStateHistory : γ → HistoryQuery → Except String (List σ)
  /-- `convert_snapshot_to_thread_state`; a snapshot that cannot be converted is skipped -/
  convertSnapshot : σ → String → Option τ
  /-- `str(graph_id)` -/
  str : Json → String

/-! ### The endpoint -/

section

variable {γ σ τ : Type} (graphs : Graphs γ σ τ)

/-- `request.limit or 10` -/
def ThreadHistoryRequest.limitOr (request : ThreadHistoryRequest) : ℤ :=
  match request.limit with
  | none | some 0 => 10
  | some n => n

/-- A dictionary, unless it is empty. -/
def nonempty (d : Option PyObject) : Option PyObject := d.filter fun d => !d.isEmpty

/-- The checkpoint and the namespace, merged into the `configurable` dictionary. -/
def ThreadHistoryRequest.mergeInto (request : ThreadHistoryRequest) (configurable : PyObject) :
    PyObject :=
  match nonempty request.checkpoint with
  | some checkpoint => PyDict.update configurable
    (request.checkpointNs.elim checkpoint fun ns => setdefault checkpoint "checkpoint_ns" (.str ns))
  | none => request.checkpointNs.elim configurable fun ns =>
    setItem configurable "checkpoint_ns" (.str ns)

/-- The configuration that the history is read with. -/
def historyConfig (user : User) (displayName : Option String) (threadId : String)
    (request : ThreadHistoryRequest) : PyObject :=
  let config := createThreadConfig threadId (some ⟨user.identity, displayName, none⟩) (some [])
  let config := setdefault config "configurable" (.dict [])
  let configurable := ((PyVal.get config "configurable").bind PyVal.asDict).getD []
  setItem config "configurable" (.dict (request.mergeInto configurable))

/-- The graph id in the metadata of a thread, unless it is falsy. -/
def graphId? (thread : Thread) : Option Json :=
  (thread.metadataJson.lookup "graph_id").filter Json.truthy

/-- The endpoint up to `aget_state_history`. A thread without a graph has no history. -/
def openHistory (db : Database) (user : User) (displayName : Option String) (threadId : String)
    (request : ThreadHistoryRequest) : Except HistoryError (Option (γ × HistoryQuery)) :=
  let limit := request.limitOr
  if limit < 1 ∨ 1000 < limit then
    .error (.httpException 422 "Invalid limit; must be an integer between 1 and 1000")
  else
    match (db.thread? threadId).filter (buildThreadAccessFilter user.identity user.orgId) with
    | none => .error (.httpException 404 ("Thread '" ++ threadId ++ "' not found"))
    | some thread =>
      match graphId? thread with
      | none => .ok none
      | some graphId =>
        match graphs.getGraph graphId with
        | .error text => .error
          (.httpException 500 ("Failed to load graph '" ++ graphs.str graphId ++ "': " ++ text))
        | .ok agent => .ok <| some (agent,
          { config := historyConfig user displayName threadId request
            filter := nonempty request.metadata
            before := request.before.map fun before =>
              [(.str "configurable", .dict [(.str "checkpoint_id", .str before)])]
            limit })

/-- `get_thread_history_post` -/
def getThreadHistoryPost (db : Database) (user : User) (displayName : Option String)
    (threadId : String) (request : ThreadHistoryRequest) : Except HistoryError (List τ) :=
  match openHistory graphs db user displayName threadId request with
  | .error e => .error e
  | .ok none => .ok []
  | .ok (some (agent, query)) =>
    match graphs.agetStateHistory agent query with
    | .ok snapshots => .ok (snapshots.filterMap fun s => graphs.convertSnapshot s threadId)
    | .error text =>
      let msg := text.toLower.toList
      if "not found".toList <:+: msg ∨ "no checkpoint".toList <:+: msg then .ok []
      else .error (.httpException 500 ("Error retrieving thread history: " ++ text))

end

/-! ### What is asked -/

/-- The configuration names this thread and this user. -/
def Names (config : PyObject) (threadId identity : String) : Prop :=
  ∃ configurable, PyVal.get config "configurable" = some (.dict configurable) ∧
    PyVal.get configurable "thread_id" = some (.str threadId) ∧
    PyVal.get configurable "user_id" = some (.str identity)

/-- What is handed to `aget_state_history` names the thread of the path, and the user. -/
def StaysOnThread {γ : Type} (opened : Except HistoryError (Option (γ × HistoryQuery)))
    (threadId identity : String) : Prop :=
  ∀ agent query, opened = .ok (some (agent, query)) → Names query.config threadId identity

/-- The entry is missing, or it is this string. -/
def isOrAbsent (checkpoint : PyObject) (key value : String) : Bool :=
  (PyVal.get checkpoint key).all (·.eqStr value)

/-- The checkpoint names no other thread and no other user. -/
def ThreadHistoryRequest.namesNoOther (request : ThreadHistoryRequest)
    (threadId identity : String) : Bool :=
  request.checkpoint.all fun checkpoint =>
    isOrAbsent checkpoint "thread_id" threadId && isOrAbsent checkpoint "user_id" identity

/-- The user may see the thread, which has a graph that can be loaded. -/
def hasHistory {γ σ τ : Type} (graphs : Graphs γ σ τ) (db : Database) (user : User)
    (threadId : String) : Bool :=
  ((db.thread? threadId).filter (buildThreadAccessFilter user.identity user.orgId)).any fun t =>
    (graphId? t).any fun graphId => (graphs.getGraph graphId).isOk

/-! ### The configuration -/

variable {request : ThreadHistoryRequest} {threadId : String} {user : User}

theorem limitOr_bounds (request : ThreadHistoryRequest) :
    1 ≤ request.limitOr ∧ request.limitOr ≤ 1000 := by
  rw [ThreadHistoryRequest.limitOr]
  split
  · omega
  · omega
  · next n _ h => exact request.limit_bounds n h

/-- The checkpoint decides, and else what was there. -/
theorem get_mergeInto (request : ThreadHistoryRequest) (configurable : PyObject) {key : String}
    (hkey : key ≠ "checkpoint_ns") :
    PyVal.get (request.mergeInto configurable) key =
      (request.checkpoint.bind (PyVal.get · key)).or (PyVal.get configurable key) := by
  have hget : ∀ checkpoint : PyObject, (checkpoint.map Prod.fst).Nodup →
      PyVal.get (PyDict.update configurable checkpoint) key =
        (PyVal.get checkpoint key).or (PyVal.get configurable key) := by
    intro checkpoint hunique
    rw [get_update]
    exact congrArg (Option.or · _) (PyDict.lookup_update_nil hunique _)
  have hns : ∀ ns : Option String, PyVal.get (ns.elim configurable fun ns =>
      setItem configurable "checkpoint_ns" (.str ns)) key = PyVal.get configurable key := by
    intro ns
    cases ns with
    | none => rfl
    | some ns => exact (get_setItem _ _ _ _).trans (if_neg hkey)
  rw [ThreadHistoryRequest.mergeInto]
  cases hcheckpoint : request.checkpoint with
  | none => exact hns request.checkpointNs
  | some checkpoint =>
    have hunique := request.checkpoint_unique checkpoint hcheckpoint
    cases checkpoint with
    | nil => exact hns request.checkpointNs
    | cons e es =>
      show PyVal.get (PyDict.update configurable (request.checkpointNs.elim (e :: es) fun ns =>
        setdefault (e :: es) "checkpoint_ns" (.str ns))) key = _
      cases request.checkpointNs with
      | none => exact hget _ hunique
      | some ns =>
        refine (hget _ (PyDict.nodup_setdefault hunique _ _)).trans ?_
        rw [show PyVal.get (PyDict.setdefault (e :: es) (.str "checkpoint_ns") (.str ns)) key = _
          from get_setdefault _ _ _ _, if_neg hkey]
        rfl

/-- The user's part of the configuration is there before the checkpoint is merged. -/
theorem get_historyConfig (user : User) (displayName : Option String) (threadId : String)
    (request : ThreadHistoryRequest) :
    PyVal.get (historyConfig user displayName threadId request) "configurable" =
      some (.dict (request.mergeInto (withUser ⟨user.identity, displayName, none⟩
        [(.str "thread_id", .str threadId)]))) := by
  rw [historyConfig, get_setItem, if_pos rfl, get_setdefault, if_pos rfl, createThreadConfig,
    get_injectUserContext]
  rfl

/-- The configuration names the thread and the user unless the checkpoint names others. -/
theorem names_historyConfig_iff (user : User) (displayName : Option String) (threadId : String)
    (request : ThreadHistoryRequest) :
    Names (historyConfig user displayName threadId request) threadId user.identity ↔
      request.namesNoOther threadId user.identity = true := by
  have hiff : ∀ key value : String,
      (request.checkpoint.bind (PyVal.get · key)).or (some (.str value)) = some (.str value) ↔
        request.checkpoint.all (isOrAbsent · key value) = true := by
    intro key value
    cases request.checkpoint with
    | none => simp
    | some checkpoint =>
      rw [Option.bind_some, Option.all_some, isOrAbsent]
      cases PyVal.get checkpoint key with
      | none => simp
      | some v => simp [PyVal.eqStr_iff]
  have hthread : PyVal.get (request.mergeInto (withUser ⟨user.identity, displayName, none⟩
      [(.str "thread_id", .str threadId)])) "thread_id" =
        (request.checkpoint.bind (PyVal.get · "thread_id")).or (some (.str threadId)) := by
    rw [get_mergeInto _ _ (by decide), get_withUser_threadId]
    rfl
  have huser : PyVal.get (request.mergeInto (withUser ⟨user.identity, displayName, none⟩
      [(.str "thread_id", .str threadId)])) "user_id" =
        (request.checkpoint.bind (PyVal.get · "user_id")).or (some (.str user.identity)) := by
    rw [get_mergeInto _ _ (by decide), get_withUser_userId]
    rfl
  have hboth : request.namesNoOther threadId user.identity = true ↔
      request.checkpoint.all (isOrAbsent · "thread_id" threadId) = true ∧
        request.checkpoint.all (isOrAbsent · "user_id" user.identity) = true := by
    rw [ThreadHistoryRequest.namesNoOther]
    cases request.checkpoint <;> simp
  rw [hboth, ← hiff, ← hiff, ← hthread, ← huser]
  constructor
  · rintro ⟨configurable, hconfigurable, hnames⟩
    rw [get_historyConfig] at hconfigurable
    cases hconfigurable
    exact hnames
  · exact fun hnames => ⟨_, get_historyConfig user displayName threadId request, hnames⟩

/-! ### The history of the path's thread -/

variable {γ σ τ : Type}

/-- A history is opened for an accessible thread with a graph, and with this configuration. -/
theorem openHistory_eq_some {graphs : Graphs γ σ τ} {db : Database} {displayName : Option String}
    {agent : γ} {query : HistoryQuery}
    (h : openHistory graphs db user displayName threadId request = .ok (some (agent, query))) :
    hasHistory graphs db user threadId = true ∧
      query.config = historyConfig user displayName threadId request := by
  rw [openHistory] at h
  rw [hasHistory]
  split at h
  · cases h
  · split at h
    · cases h
    · next thread hthread =>
      split at h
      · cases h
      · next graphId hgraph =>
        split at h
        · cases h
        · next agent' hagent =>
          cases h
          simp [hthread, hgraph, hagent, Except.isOk, Except.toBool]

/-- The history of an accessible thread with a graph is opened. -/
theorem exists_openHistory {graphs : Graphs γ σ τ} {db : Database} (displayName : Option String)
    (request : ThreadHistoryRequest) (h : hasHistory graphs db user threadId = true) :
    ∃ agent query,
      openHistory graphs db user displayName threadId request = .ok (some (agent, query)) := by
  obtain ⟨thread, hthread, h⟩ := (Option.any_eq_true _ _).mp h
  obtain ⟨graphId, hgraph, h⟩ := (Option.any_eq_true _ _).mp h
  have hbounds := limitOr_bounds request
  cases hagent : graphs.getGraph graphId with
  | error text =>
    rw [hagent] at h
    cases h
  | ok agent =>
    rw [openHistory, if_neg (by omega), hthread]
    dsimp only
    rw [hgraph]
    dsimp only
    rw [hagent]
    exact ⟨agent, _, rfl⟩

/-- What is returned: if a checkpointer returns the snapshots of the thread that a configuration
names, those of the thread of the path. -/
theorem snapshots_of_thread (graphs : Graphs γ σ τ) (db : Database) (threadOf : σ → String)
    (hcheckpointer : ∀ agent query snapshots, graphs.agetStateHistory agent query = .ok snapshots →
      ∀ s ∈ snapshots, checkpointThread query.config = some (threadOf s))
    (displayName : Option String) (hnames : request.namesNoOther threadId user.identity = true)
    {states : List τ}
    (h : getThreadHistoryPost graphs db user displayName threadId request = .ok states) :
    ∀ state ∈ states, ∃ s,
      threadOf s = threadId ∧ graphs.convertSnapshot s threadId = some state := by
  intro state hstate
  rw [getThreadHistoryPost] at h
  split at h
  · cases h
  · cases h
    cases hstate
  · next agent query hopened =>
    split at h
    · next snapshots hsnapshots =>
      cases h
      obtain ⟨s, hs, hconvert⟩ := List.mem_filterMap.mp hstate
      refine ⟨s, ?_, hconvert⟩
      obtain ⟨configurable, hconfigurable, hthread, -⟩ :=
        (names_historyConfig_iff user displayName threadId request).mpr hnames
      rw [← (openHistory_eq_some hopened).2] at hconfigurable
      have hs := hcheckpointer agent query snapshots hsnapshots s hs
      rw [checkpointThread, hconfigurable, Option.bind_some, PyVal.asDict] at hs
      dsimp only at hs
      rw [hthread] at hs
      exact (Option.some.inj hs).symm
    · dsimp only at h
      split at h
      · cases h
        cases hstate
      · cases h

/-- **The history stays on the thread of the path** if and only if there is none, or the checkpoint
names no other thread and no other user. -/
theorem stays_on_thread_iff (graphs : Graphs γ σ τ) (db : Database) (user : User)
    (displayName : Option String) (threadId : String) (request : ThreadHistoryRequest) :
    StaysOnThread (openHistory graphs db user displayName threadId request) threadId
        user.identity ↔
      (hasHistory graphs db user threadId = true →
        request.namesNoOther threadId user.identity = true) := by
  constructor
  · intro hstays hhistory
    obtain ⟨agent, query, hopened⟩ := exists_openHistory displayName request hhistory
    rw [← names_historyConfig_iff user displayName, ← (openHistory_eq_some hopened).2]
    exact hstays agent query hopened
  · intro hnames agent query hopened
    obtain ⟨hhistory, hconfig⟩ := openHistory_eq_some hopened
    rw [hconfig, names_historyConfig_iff]
    exact hnames hhistory

def aliceThread : Thread := ⟨"t", .idle, [("graph_id", .str "agent")], "alice", none⟩

/-- A server with one thread and one graph. -/
def aliceDatabase : Database :=
  ⟨[], [aliceThread], [], List.nodup_singleton _, List.nodup_nil,
    fun _ h => absurd h List.not_mem_nil⟩

def anyGraphs : Graphs Unit Unit Unit :=
  ⟨fun _ => .ok (), fun _ _ => .ok [], fun _ _ => some (), fun _ => "agent"⟩

/-- The checkpoint names the thread and the user of another. -/
def bobsCheckpoint : ThreadHistoryRequest where
  limit := some 10
  before := none
  metadata := none
  checkpoint := some [(.str "thread_id", .str "bob-thread"), (.str "user_id", .str "bob")]
  checkpointNs := none
  limit_bounds := by decide
  checkpoint_unique := by decide

/-- Alice may see her thread, and the history that is read is of the thread that she names. -/
theorem history_of_another :
    ¬ ∀ (db : Database) (user : User) (threadId : String) (request : ThreadHistoryRequest),
      StaysOnThread (openHistory anyGraphs db user none threadId request) threadId
        user.identity := by
  intro hall
  obtain ⟨configurable, hconfigurable, hthread, -⟩ :=
    hall aliceDatabase ⟨"alice", none⟩ "t" bobsCheckpoint () _ rfl
  cases hconfigurable
  have hnamed : some (PyVal.str "bob-thread") = some (.str "t") := hthread
  exact absurd (PyVal.str.inj (Option.some.inj hnamed)) (by decide)

end ThreadHistory

end OpenLangGraph

import OpenLangGraph.Core.Orm
import OpenLangGraph.Foundation.Transition
import OpenLangGraph.Services.LangGraphService

/-!
# Calls of graphs by other agents

`a2a/router.py` and `a2a/executor.py`: a call by the A2A protocol executes a graph that is compiled
with the checkpointer that the threads have, on a checkpoint thread that the ids of the call name.

## Whose thread

The caller is authenticated, and nobody asks who it is: the context id of the call, or else its task
id, is the thread. So it depends on the callers alone whether a call stays among the conversations
of its own user.

## Implementation notes

What the protocol library does with a request before the graph is called, and the conversion of the
message, are outside: a call is *prepared* if they succeed. The library hands the ids of the client
through.

## Main definitions

* `buildConfig`, `getOrCreateA2aApp`, `handleA2aPost`
* `A2AServer`, `step` — thread rows that come and go, and calls
* `Isolated`, `namesOwnThread` — a call stays among its user's threads; the ids that it names are
  its user's

## Main results

* `checkpointThread_buildConfig` — the client's ids name the thread
* `isolated_iff` — the calls of a history are isolated exactly if they name their users' threads
* `thread_of_another` — a call that reads the thread of another user
-/

namespace OpenLangGraph

open Transition LangGraphService

namespace A2A

/-- The ids of `RequestContext`. -/
structure RequestContext where
  contextId : Option String
  taskId : Option String

/-- A string of the client's, or `None`. -/
def pyString (s : Option String) : PyVal := s.elim .none .str

/-- `context.context_id or context.task_id` -/
def clientThread (context : RequestContext) : Option String :=
  match context.contextId with
  | none | some "" => context.taskId
  | some contextId => some contextId

/-- `_build_config` -/
def buildConfig (context : RequestContext) : PyObject :=
  [(.str "configurable", .dict
    [(.str "thread_id", pyString (clientThread context)),
      (.str "run_id", pyString context.taskId)])]

/-- What the server finds under a graph id. -/
inductive GraphLookup
  | notFound
  | withoutMessages
  | compatible

inductive A2AError
  | httpException (statusCode : ℕ) (detail : String)
  /-- `ServerError`, for whatever goes wrong before the graph is called -/
  | serverError

/-- `get_or_create_a2a_app`, as far as it fails. -/
def getOrCreateA2aApp (lookup : String → GraphLookup) (graphId : String) : Except A2AError Unit :=
  match lookup graphId with
  | .notFound => .error (.httpException 404 ("Graph '" ++ graphId ++ "' not found"))
  | .withoutMessages => .error (.httpException 404
    ("Graph '" ++ graphId ++ "' is not A2A compatible (no 'messages' field)"))
  | .compatible => .ok ()

/-- A call: the configuration with which `execute` calls the graph. -/
def handleA2aPost (lookup : String → GraphLookup) (graphId : String) (context : RequestContext)
    (prepared : Bool) : Except A2AError PyObject := do
  getOrCreateA2aApp lookup graphId
  if prepared then return buildConfig context else .error .serverError

/-- The client's ids name the thread. -/
theorem checkpointThread_buildConfig (context : RequestContext) :
    checkpointThread (buildConfig context) = clientThread context := by
  rw [buildConfig]
  cases clientThread context with
  | none => rfl
  | some thread => rfl

/-! ### Histories -/

/-- The thread rows, and the calls so far: by whom, on which checkpoint thread. -/
structure A2AServer where
  threads : List Thread
  calls : List (User × String)

inductive A2ALabel
  /-- The threads API creates a row, for its caller and under a new id. -/
  | createThread (thread : Thread)
  | deleteThread (user : User) (threadId : String)
  | post (user : User) (graphId : String) (context : RequestContext) (prepared : Bool)

/-- A call has executed on a thread, or has not come to it. -/
def afterPost (lookup : String → GraphLookup) (s : A2AServer) (user : User) (graphId : String)
    (context : RequestContext) (prepared : Bool) : A2AServer :=
  match handleA2aPost lookup graphId context prepared with
  | .error _ => s
  | .ok config => { s with calls := s.calls ++ (checkpointThread config).toList.map (user, ·) }

def step (lookup : String → GraphLookup) (s : A2AServer) : A2ALabel → Option A2AServer
  | .createThread thread =>
    if thread.threadId ∈ s.threads.map Thread.threadId then none
    else some { s with threads := s.threads ++ [thread] }
  | .deleteThread user threadId =>
    some { s with
      threads := s.threads.filter fun thread =>
        !(thread.threadId = threadId && buildThreadAccessFilter user.identity user.orgId thread) }
  | .post user graphId context prepared =>
    some (afterPost lookup s user graphId context prepared)

/-- A call does not execute on a thread whose row its user may not access, or on one on which
another caller has called a graph. -/
def Isolated (lookup : String → GraphLookup) (s : A2AServer) : A2ALabel → Prop
  | .post user graphId context prepared =>
    ∀ config threadId, handleA2aPost lookup graphId context prepared = .ok config →
      checkpointThread config = some threadId →
      (∀ thread ∈ s.threads, thread.threadId = threadId →
        buildThreadAccessFilter user.identity user.orgId thread = true) ∧
      ∀ call ∈ s.calls, call.2 = threadId → call.1.identity = user.identity
  | _ => True

/-- The first caller on a thread. -/
def firstCaller (s : A2AServer) (threadId : String) : Option User :=
  (s.calls.find? (·.2 = threadId)).map Prod.fst

/-- The thread that the client names has no row that the user may not access, and if it is a
context of earlier calls, then the user began it. -/
def namesOwnThread (lookup : String → GraphLookup) (s : A2AServer) : A2ALabel → Bool
  | .post user graphId context prepared =>
    !(handleA2aPost lookup graphId context prepared).isOk ||
      (clientThread context).all fun threadId =>
        (s.threads.all fun thread => thread.threadId ≠ threadId ||
          buildThreadAccessFilter user.identity user.orgId thread) &&
        (firstCaller s threadId).all (·.identity = user.identity)
  | _ => true

/-! ### Who began a context -/

variable {lookup : String → GraphLookup} {s s' : A2AServer} {label : A2ALabel}

/-- A call that comes to a graph executes on the thread that the client names. -/
theorem handleA2aPost_eq_ok {graphId : String} {context : RequestContext} {prepared : Bool}
    {config : PyObject} (h : handleA2aPost lookup graphId context prepared = .ok config) :
    config = buildConfig context := by
  rw [handleA2aPost] at h
  cases happ : getOrCreateA2aApp lookup graphId with
  | error e =>
    rw [happ] at h
    cases h
  | ok u =>
    rw [happ] at h
    cases prepared with
    | false => cases h
    | true => exact (Except.ok.inj h).symm

/-- Whoever has called a graph on a thread began the context. -/
def BegunByCallers (s : A2AServer) : Prop :=
  ∀ call ∈ s.calls, ∃ first, firstCaller s call.2 = some first ∧ first.identity = call.1.identity

theorem begun_post {user : User} {graphId : String} {context : RequestContext} {prepared : Bool}
    (hs : BegunByCallers s)
    (hnames : namesOwnThread lookup s (.post user graphId context prepared) = true) :
    BegunByCallers (afterPost lookup s user graphId context prepared) := by
  rw [afterPost]
  rw [namesOwnThread] at hnames
  cases hpost : handleA2aPost lookup graphId context prepared with
  | error e => exact hs
  | ok config =>
    obtain rfl := handleA2aPost_eq_ok hpost
    rw [hpost] at hnames
    dsimp only
    rw [checkpointThread_buildConfig]
    cases hthread : clientThread context with
    | none =>
      rw [Option.toList_none, List.map_nil, List.append_nil]
      exact hs
    | some threadId =>
      have hfirst : (firstCaller s threadId).all (·.identity = user.identity) = true := by
        rw [hthread] at hnames
        exact (Bool.and_eq_true_iff.mp hnames).2
      have hfind : ∀ t, firstCaller { s with calls := s.calls ++ [(user, threadId)] } t =
          (firstCaller s t).or (if threadId = t then some user else none) := by
        intro t
        rw [firstCaller, List.find?_append, Option.map_or, firstCaller]
        congr 1
        by_cases ht : threadId = t <;> simp [ht]
      intro call hcall
      rw [Option.toList_some, List.map_singleton] at hcall ⊢
      rcases List.mem_append.mp hcall with hold | hnew
      · obtain ⟨first, hbegan, hidentity⟩ := hs call hold
        exact ⟨first, by rw [hfind, hbegan, Option.some_or], hidentity⟩
      · rw [List.mem_singleton.mp hnew, hfind]
        cases hbegan : firstCaller s threadId with
        | none => exact ⟨user, by simp, rfl⟩
        | some first =>
          rw [hbegan] at hfirst
          exact ⟨first, rfl, of_decide_eq_true hfirst⟩

theorem begun_step (hs : BegunByCallers s) (hnames : namesOwnThread lookup s label = true)
    (h : step lookup s label = some s') : BegunByCallers s' := by
  cases label with
  | createThread thread =>
    rw [step] at h
    split at h
    · cases h
    · cases h
      exact hs
  | deleteThread user threadId =>
    cases h
    exact hs
  | post user graphId context prepared =>
    cases h
    exact begun_post hs hnames

theorem isolated_of_namesOwnThread (hs : BegunByCallers s)
    (hnames : namesOwnThread lookup s label = true) : Isolated lookup s label := by
  cases label with
  | createThread thread => trivial
  | deleteThread user threadId => trivial
  | post user graphId context prepared =>
    intro config threadId hpost hthread
    obtain rfl := handleA2aPost_eq_ok hpost
    rw [checkpointThread_buildConfig] at hthread
    rw [namesOwnThread, hpost, hthread] at hnames
    obtain ⟨hrows, hfirst⟩ := Bool.and_eq_true_iff.mp hnames
    constructor
    · intro thread hmem hid
      have hrow := List.all_eq_true.mp hrows thread hmem
      simpa [hid] using hrow
    · rintro call hcall rfl
      obtain ⟨first, hbegan, hidentity⟩ := hs call hcall
      rw [hbegan] at hfirst
      exact hidentity.symm.trans (of_decide_eq_true hfirst)

theorem namesOwnThread_of_isolated (h : Isolated lookup s label) :
    namesOwnThread lookup s label = true := by
  cases label with
  | createThread thread => rfl
  | deleteThread user threadId => rfl
  | post user graphId context prepared =>
    rw [namesOwnThread]
    cases hpost : handleA2aPost lookup graphId context prepared with
    | error e => rfl
    | ok config =>
      obtain rfl := handleA2aPost_eq_ok hpost
      cases hthread : clientThread context with
      | none => rfl
      | some threadId =>
        obtain ⟨hrows, hcalls⟩ := h _ threadId hpost
          ((checkpointThread_buildConfig context).trans hthread)
        refine Bool.and_eq_true_iff.mpr ⟨List.all_eq_true.mpr fun thread hmem => ?_, ?_⟩
        · by_cases hid : thread.threadId = threadId
          · simp [hid, hrows thread hmem hid]
          · simp [hid]
        · cases hbegan : firstCaller s threadId with
          | none => rfl
          | some first =>
            obtain ⟨call, hfind, rfl⟩ := Option.map_eq_some_iff.mp hbegan
            have hid := List.find?_some hfind
            exact decide_eq_true
              (hcalls call (List.mem_of_find?_eq_some hfind) (of_decide_eq_true hid))

/-- **The isolation of a history** is up to its callers: the calls stay among their users' threads
exactly if they name such threads. -/
theorem isolated_iff (hs : s.calls = []) (labels : List A2ALabel) :
    Along (step lookup) (Isolated lookup) s labels ↔
      Along (step lookup) (fun s label => namesOwnThread lookup s label = true) s labels := by
  constructor
  · exact Along.mono fun s label h => namesOwnThread_of_isolated h
  · refine along_of_invariant (I := BegunByCallers) (fun _ _ _ hs hnames hstep => ?_)
      (fun _ _ hs hnames => ?_) ?_
    · exact begun_step hs hnames hstep
    · exact isolated_of_namesOwnThread hs hnames
    · intro call hcall
      rw [hs] at hcall
      cases hcall

/-- Alice has a thread. -/
def aliceServer : A2AServer := ⟨[⟨"alice-thread", .idle, [], "alice", none⟩], []⟩

/-- A call with a context id, on the one graph that there is. -/
def callOn (identity contextId : String) : A2ALabel :=
  .post ⟨identity, none⟩ "agent" ⟨some contextId, some "task"⟩ true

theorem isolated_two_callers :
    Along (step fun _ => .compatible) (Isolated fun _ => .compatible) aliceServer
      [callOn "alice" "alice-thread", callOn "bob" "bob-context", callOn "bob" "bob-context"] :=
  (isolated_iff rfl _).mpr (by decide)

/-- Bob calls a graph on Alice's thread. -/
theorem thread_of_another :
    ¬ ∀ (lookup : String → GraphLookup) (s : A2AServer) (labels : List A2ALabel), s.calls = [] →
      Along (step lookup) (Isolated lookup) s labels := by
  intro h
  have hbob := h (fun _ => .compatible) aliceServer [callOn "bob" "alice-thread"] rfl
  have haccess := (hbob.1 _ "alice-thread" rfl rfl).1 _ List.mem_cons_self rfl
  exact absurd haccess (by decide)

end A2A

end OpenLangGraph

import OpenLangGraph.Foundation.PyString
import OpenLangGraph.Foundation.Transition

/-!
# The context of row-level security

`get_session_with_rls` gives a request a session whose statements are to run with the organization
and the user of the request in two settings of the connection. `set_rls_context` writes the settings
when the session is opened, and `clear_rls_context` resets them when the request is over.

## Where a setting lives

The settings belong to the connection, and like data they are transactional: a rollback restores
them, and a commit keeps them. A session holds a connection only while it is in a transaction. A
commit hands the connection back with the settings on it, and the next statement of the request
runs on another one. The `RESET` at the end is the last statement before the session is closed, and
closing it rolls the `RESET` back.

## The model

An idle connection is its settings. A request that is in a transaction holds a connection, with the
settings now and at the beginning of the transaction. Statements, commits and rollbacks of the
requests are interleaved at will, and each transaction begins on any idle connection or on a new
one.

## Main definitions

* `RlsContext`, `Connection`, `Request`
* `Request.advance`, `step`
* `Isolated` — the law
* `Request.keepsContext` — the steps that keep it

## Main results

* `isolated_iff_along` — in which runs the law holds, exactly
* `commit_leaks` — a run in which it does not
-/

namespace OpenLangGraph

namespace Rls

open PyString Transition

/-! ### Connections -/

/-- `app.current_org_id` and `app.current_user_id`. -/
structure RlsContext where
  orgId : Str
  userId : Str
deriving DecidableEq

/-- The settings of a new connection, and after `RESET`. -/
def RlsContext.unset : RlsContext := ⟨[], []⟩

/-- A connection in a transaction. -/
structure Connection where
  settings : RlsContext
  /-- the settings at the beginning of the transaction -/
  before : RlsContext
  /-- a statement has failed -/
  aborted : Bool
deriving DecidableEq

namespace Connection

/-- `BEGIN` -/
def ofIdle (settings : RlsContext) : Connection := ⟨settings, settings, false⟩

/-- The settings after `COMMIT`: a transaction in which a statement has failed is rolled back. -/
def commit (c : Connection) : RlsContext := if c.aborted then c.before else c.settings

/-- The settings after `ROLLBACK`. -/
def rollback (c : Connection) : RlsContext := c.before

end Connection

/-- The connection of a session: the one it holds, or else an idle or a new one. -/
def checkout (idle : List RlsContext) (held : Option Connection) (choice : Option ℕ) :
    Option (Connection × List RlsContext) :=
  match held, choice with
  | some c, _ => some (c, idle)
  | none, none => some (.ofIdle .unset, idle)
  | none, some i => idle[i]?.map fun settings => (.ofIdle settings, idle.eraseIdx i)

/-! ### Requests -/

/-- Where `_get_session_core` is. -/
inductive Stage
  /-- the context is still to be set -/
  | opened
  /-- at the `yield` -/
  | serving
  /-- the `finally` clause has run -/
  | closing
  | closed
deriving DecidableEq

/-- A request with the identifiers of its user, and the connection that its session holds. -/
structure Request where
  orgId : Option Str
  userId : Option Str
  stage : Stage
  held : Option Connection
deriving DecidableEq

/-- `_VALID_IDENTIFIER`; its `$` also matches in front of a newline at the end. -/
def isIdentifier (value : Str) : Bool :=
  let value := if value.getLast? = some '\n' then value.dropLast else value
  value ≠ [] && value.all fun c => c.isAlphanum || c = '_' || c = '-'

/-- `_validate_identifier` returns. -/
def validates (value : Option Str) : Bool :=
  (truthy value).all fun value => isIdentifier value && value.length ≤ 256

/-- What a request may do. A choice is the idle connection that is taken, if one is needed. -/
inductive Action
  /-- `set_rls_context` -/
  | setContext (choice : Option ℕ)
  /-- `set_rls_context`, and one of its statements fails -/
  | setFails (choice : Option ℕ)
  /-- a statement, which may fail -/
  | execute (choice : Option ℕ) (succeeds : Bool)
  | commit
  | rollback
  /-- `clear_rls_context`, which may fail -/
  | clear (choice : Option ℕ) (succeeds : Bool)
  /-- the session is closed -/
  | close
deriving DecidableEq

/-- A request after an action, the idle connections, and the statements that have run, each with
the context of the request and the settings it has seen. -/
structure Turn where
  request : Request
  idle : List RlsContext
  ran : List (RlsContext × RlsContext)

namespace Request

/-- `rls_active` -/
def isActive (r : Request) : Bool := r.orgId.isSome || r.userId.isSome

/-- The context that is set for the request. -/
def context (r : Request) : RlsContext := ⟨optOrEmpty r.orgId, optOrEmpty r.userId⟩

/-- The session hands its connection back. -/
def release (r : Request) (idle : List RlsContext) (settings : Connection → RlsContext) : Turn :=
  ⟨{ r with held := none }, idle ++ (r.held.map settings).toList, []⟩

/-- One action of a request. -/
def advance (idle : List RlsContext) (r : Request) : Action → Option Turn
  | .setContext choice =>
    if r.stage = .opened then
      if validates r.orgId && validates r.userId then
        (checkout idle r.held choice).map fun (c, idle) =>
          ⟨{ r with stage := .serving, held := some { c with settings := r.context } }, idle, []⟩
      else some ({ r with stage := .closed }.release idle Connection.rollback)
    else none
  | .setFails choice =>
    if r.stage = .opened && validates r.orgId && validates r.userId then
      (checkout idle r.held choice).map fun (c, idle) =>
        { r with stage := .closed, held := some c }.release idle Connection.rollback
    else none
  | .execute choice succeeds =>
    if r.stage = .serving then
      (checkout idle r.held choice).map fun (c, idle) =>
        -- nothing runs any more in a transaction that has failed
        if c.aborted then ⟨{ r with held := some c }, idle, []⟩
        else
          ⟨{ r with held := some { c with aborted := !succeeds } }, idle,
            [(r.context, c.settings)]⟩
    else none
  | .commit => if r.stage = .serving then some (r.release idle Connection.commit) else none
  | .rollback => if r.stage = .serving then some (r.release idle Connection.rollback) else none
  | .clear choice succeeds =>
    if r.stage = .serving && r.isActive then
      (checkout idle r.held choice).map fun (c, idle) =>
        let c := if c.aborted || !succeeds then { c with aborted := true }
          else { c with settings := .unset }
        ⟨{ r with stage := .closing, held := some c }, idle, []⟩
    else none
  | .close =>
    if r.stage = .closing || r.stage = .serving && !r.isActive then
      some ({ r with stage := .closed }.release idle Connection.rollback)
    else none

/-- A request of an anonymous user has no context and is served at once. -/
def arrived (orgId userId : Option Str) : Request where
  orgId
  userId
  stage := if orgId.isSome || userId.isSome then .opened else .serving
  held := none

/-- A request with a context does not commit a transaction of its session, and does not run a
statement in another transaction than the first. -/
def keepsContext (r : Request) : Action → Bool
  | .execute _ _ => r.held.isSome || r.context = .unset
  | .commit => r.held.all (·.aborted) || r.context = .unset
  | _ => true

end Request

/-! ### The pool -/

structure Pool where
  idle : List RlsContext
  requests : List Request
  /-- the statements that have run, each with the context of its request and what it has seen -/
  ran : List (RlsContext × RlsContext)

def Pool.empty : Pool := ⟨[], [], []⟩

inductive Label
  | arrive (orgId userId : Option Str)
  | act (i : ℕ) (action : Action)
deriving DecidableEq

def step (s : Pool) : Label → Option Pool
  | .arrive orgId userId => some { s with requests := s.requests ++ [.arrived orgId userId] }
  | .act i action =>
    s.requests[i]?.bind fun r =>
      (r.advance s.idle action).map fun turn =>
        ⟨turn.idle, s.requests.set i turn.request, s.ran ++ turn.ran⟩

/-- Every statement has run with the context of its request, and an idle connection carries none. -/
def Isolated (s : Pool) : Prop :=
  (∀ e ∈ s.ran, e.2 = e.1) ∧ ∀ settings ∈ s.idle, settings = .unset

/-- The request of the step keeps its context. -/
def keepsContext (s : Pool) : Label → Bool
  | .arrive _ _ => true
  | .act i action => s.requests[i]?.all (·.keepsContext action)

/-! ### What keeps the law -/

/-- A transaction of a request begins without a context, and its statements see the context of the
request. -/
structure Request.Sound (r : Request) : Prop where
  before : ∀ c ∈ r.held, c.before = .unset
  settings : r.stage = .serving → ∀ c ∈ r.held, c.settings = r.context

structure Sound (s : Pool) : Prop where
  isolated : Isolated s
  requests : ∀ r ∈ s.requests, r.Sound

variable {r : Request} {idle : List RlsContext} {action : Action} {turn : Turn}

/-- The connection of a session: the one it holds, or one without a context. -/
theorem checkout_spec (hidle : ∀ settings ∈ idle, settings = .unset) {held : Option Connection}
    {choice : Option ℕ} {c : Connection} {idle' : List RlsContext}
    (h : checkout idle held choice = some (c, idle')) :
    (held = some c ∨ held = none ∧ c = .ofIdle .unset) ∧
      ∀ settings ∈ idle', settings = .unset := by
  rw [checkout.eq_def] at h
  split at h
  · obtain ⟨rfl, rfl⟩ := Prod.mk.inj (Option.some.inj h)
    exact ⟨.inl rfl, hidle⟩
  · obtain ⟨rfl, rfl⟩ := Prod.mk.inj (Option.some.inj h)
    exact ⟨.inr ⟨rfl, rfl⟩, hidle⟩
  · obtain ⟨settings, hsettings, heq⟩ := Option.map_eq_some_iff.mp h
    obtain ⟨rfl, rfl⟩ := Prod.mk.inj heq
    rw [hidle settings (List.mem_of_getElem? hsettings)]
    exact ⟨.inr ⟨rfl, rfl⟩, fun settings' h' => hidle settings' (List.mem_of_mem_eraseIdx h')⟩

/-- A connection that is checked out has begun without a context. -/
theorem before_of_checkout (hr : r.Sound) (hidle : ∀ settings ∈ idle, settings = .unset)
    {choice : Option ℕ} {c : Connection} {idle' : List RlsContext}
    (h : checkout idle r.held choice = some (c, idle')) : c.before = .unset := by
  rcases (checkout_spec hidle h).1 with hheld | ⟨-, rfl⟩
  · exact hr.before c hheld
  · rfl

/-- What an action leaves behind is sound. -/
structure Turn.Sound (turn : Turn) : Prop where
  request : turn.request.Sound
  idle : ∀ settings ∈ turn.idle, settings = .unset
  ran : ∀ e ∈ turn.ran, e.2 = e.1

/-- A request that hands back a connection without a context. -/
theorem sound_release {f : Connection → RlsContext} (hf : ∀ c ∈ r.held, f c = .unset)
    (hidle : ∀ settings ∈ idle, settings = .unset) : (r.release idle f).Sound where
  request := ⟨fun c hc => absurd hc (Option.not_mem_none c),
    fun _ c hc => absurd hc (Option.not_mem_none c)⟩
  idle := by
    intro settings hsettings
    rcases List.mem_append.mp hsettings with hold | hnew
    · exact hidle settings hold
    · obtain ⟨c, hc, rfl⟩ := Option.map_eq_some_iff.mp (Option.mem_toList.mp hnew)
      exact hf c hc
  ran := fun e he => absurd he List.not_mem_nil

/-- A request that goes on with a connection. -/
theorem sound_hold {r : Request} {c : Connection} {ran : List (RlsContext × RlsContext)}
    (hheld : r.held = some c) (hbefore : c.before = .unset)
    (hsettings : r.stage = .serving → c.settings = r.context)
    (hidle : ∀ settings ∈ idle, settings = .unset) (hran : ∀ e ∈ ran, e.2 = e.1) :
    (⟨r, idle, ran⟩ : Turn).Sound where
  request := by
    constructor
    · intro c' hc'
      obtain rfl := Option.some.inj (hheld.symm.trans hc')
      exact hbefore
    · intro hstage c' hc'
      obtain rfl := Option.some.inj (hheld.symm.trans hc')
      exact hsettings hstage
  idle := hidle
  ran := hran

theorem sound_setContext (hr : r.Sound) (hidle : ∀ settings ∈ idle, settings = .unset)
    {choice : Option ℕ} (h : r.advance idle (.setContext choice) = some turn) : turn.Sound := by
  rw [Request.advance] at h
  split at h
  · split at h
    · obtain ⟨⟨c, idle'⟩, hcheckout, rfl⟩ := Option.map_eq_some_iff.mp h
      have hbefore := before_of_checkout hr hidle hcheckout
      exact sound_hold rfl hbefore (fun _ => rfl)
        (checkout_spec hidle hcheckout).2 (fun e he => absurd he List.not_mem_nil)
    · obtain rfl := Option.some.inj h
      exact sound_release (r := { r with stage := .closed }) hr.before hidle
  · cases h

theorem sound_setFails (hr : r.Sound) (hidle : ∀ settings ∈ idle, settings = .unset)
    {choice : Option ℕ} (h : r.advance idle (.setFails choice) = some turn) : turn.Sound := by
  rw [Request.advance] at h
  split at h
  · obtain ⟨⟨c, idle'⟩, hcheckout, rfl⟩ := Option.map_eq_some_iff.mp h
    refine sound_release (fun c' hc' => ?_) (checkout_spec hidle hcheckout).2
    obtain rfl := Option.some.inj hc'
    exact before_of_checkout hr hidle hcheckout
  · cases h

/-- A statement runs in the transaction in which the context has been set, or no context is due. -/
theorem sound_execute (hr : r.Sound) (hidle : ∀ settings ∈ idle, settings = .unset)
    {choice : Option ℕ} {succeeds : Bool}
    (hkeeps : r.keepsContext (.execute choice succeeds) = true)
    (h : r.advance idle (.execute choice succeeds) = some turn) : turn.Sound := by
  rw [Request.advance] at h
  split at h
  · next hstage =>
    obtain ⟨⟨c, idle'⟩, hcheckout, rfl⟩ := Option.map_eq_some_iff.mp h
    obtain ⟨hheld, hidle'⟩ := checkout_spec hidle hcheckout
    have hsettings : c.settings = r.context := by
      rcases hheld with hheld | ⟨hheld, rfl⟩
      · exact hr.settings hstage c hheld
      · rw [Request.keepsContext, hheld, Option.isSome_none, Bool.false_or,
          decide_eq_true_eq] at hkeeps
        exact hkeeps.symm
    have hbefore := before_of_checkout hr hidle hcheckout
    dsimp only
    split
    · exact sound_hold rfl hbefore (fun _ => hsettings) hidle'
        (fun e he => absurd he List.not_mem_nil)
    · refine sound_hold rfl hbefore (fun _ => hsettings) hidle' fun e he => ?_
      rw [List.mem_singleton.mp he]
      exact hsettings
  · cases h

/-- A commit leaves no context behind if there was none, or if it is a rollback. -/
theorem sound_commit (hr : r.Sound) (hidle : ∀ settings ∈ idle, settings = .unset)
    (hkeeps : r.keepsContext .commit = true) (h : r.advance idle .commit = some turn) :
    turn.Sound := by
  rw [Request.advance] at h
  split at h
  · next hstage =>
    obtain rfl := Option.some.inj h
    refine sound_release (fun c hc => ?_) hidle
    rw [Connection.commit]
    split
    · exact hr.before c hc
    · next haborted =>
      rw [Request.keepsContext, hc, Option.all_some, Bool.or_eq_true,
        decide_eq_true_eq] at hkeeps
      rw [hr.settings hstage c hc]
      exact hkeeps.resolve_left haborted
  · cases h

theorem sound_clear (hr : r.Sound) (hidle : ∀ settings ∈ idle, settings = .unset)
    {choice : Option ℕ} {succeeds : Bool}
    (h : r.advance idle (.clear choice succeeds) = some turn) : turn.Sound := by
  rw [Request.advance] at h
  split at h
  · obtain ⟨⟨c, idle'⟩, hcheckout, rfl⟩ := Option.map_eq_some_iff.mp h
    have hbefore := before_of_checkout hr hidle hcheckout
    refine sound_hold rfl ?_ (fun hstage => Stage.noConfusion hstage)
      (checkout_spec hidle hcheckout).2 (fun e he => absurd he List.not_mem_nil)
    split
    · exact hbefore
    · exact hbefore
  · cases h

/-- **One action** of a sound request over idle connections without a context. -/
theorem sound_advance (hr : r.Sound) (hidle : ∀ settings ∈ idle, settings = .unset)
    (hkeeps : r.keepsContext action = true) (h : r.advance idle action = some turn) :
    turn.Sound := by
  cases action with
  | setContext choice => exact sound_setContext hr hidle h
  | setFails choice => exact sound_setFails hr hidle h
  | execute choice succeeds => exact sound_execute hr hidle hkeeps h
  | commit => exact sound_commit hr hidle hkeeps h
  | rollback =>
    rw [Request.advance] at h
    split at h
    · obtain rfl := Option.some.inj h
      exact sound_release hr.before hidle
    · cases h
  | clear choice succeeds => exact sound_clear hr hidle h
  | close =>
    rw [Request.advance] at h
    split at h
    · obtain rfl := Option.some.inj h
      exact sound_release (r := { r with stage := .closed }) hr.before hidle
    · cases h

/-- If what has run and what is idle afterwards is as it should be, the request has kept its
context. -/
theorem keepsContext_of_advance (hr : r.Sound) (hidle : ∀ settings ∈ idle, settings = .unset)
    (h : r.advance idle action = some turn) (hran : ∀ e ∈ turn.ran, e.2 = e.1)
    (hidle' : ∀ settings ∈ turn.idle, settings = .unset) : r.keepsContext action = true := by
  cases action with
  | setContext | setFails | rollback | clear | close => rfl
  | execute choice succeeds =>
    rw [Request.advance] at h
    split at h
    · obtain ⟨⟨c, idle'⟩, hcheckout, rfl⟩ := Option.map_eq_some_iff.mp h
      rw [Request.keepsContext, Bool.or_eq_true, decide_eq_true_eq]
      rcases (checkout_spec hidle hcheckout).1 with hheld | ⟨-, rfl⟩
      · exact .inl (hheld ▸ rfl)
      · exact .inr (hran _ List.mem_cons_self).symm
    · cases h
  | commit =>
    rw [Request.advance] at h
    split at h
    · next hstage =>
      obtain rfl := Option.some.inj h
      rw [Request.keepsContext, Bool.or_eq_true, decide_eq_true_eq]
      cases hheld : r.held with
      | none => exact .inl rfl
      | some c =>
        have hcommit : c.commit = .unset := by
          refine hidle' _ (List.mem_append_right _ ?_)
          rw [hheld]
          exact List.mem_singleton_self _
        rw [Connection.commit] at hcommit
        split at hcommit
        · next haborted => exact .inl haborted
        · exact .inr ((hr.settings hstage c hheld).symm.trans hcommit)
    · cases h

/-! ### Runs -/

variable {s s' : Pool} {label : Label} {labels : List Label}

/-- The action of one request. -/
theorem step_act {i : ℕ} (h : step s (.act i action) = some s') : ∃ r turn,
    s.requests[i]? = some r ∧ r.advance s.idle action = some turn ∧
      s' = ⟨turn.idle, s.requests.set i turn.request, s.ran ++ turn.ran⟩ := by
  rw [step] at h
  obtain ⟨r, hr, h⟩ := Option.bind_eq_some_iff.mp h
  obtain ⟨turn, hturn, rfl⟩ := Option.map_eq_some_iff.mp h
  exact ⟨r, turn, hr, hturn, rfl⟩

/-- **One step** of a sound pool. -/
theorem sound_step (hs : Sound s) (hkeeps : keepsContext s label = true)
    (h : step s label = some s') : Sound s' := by
  cases label with
  | arrive orgId userId =>
    obtain rfl := Option.some.inj h
    refine ⟨hs.isolated, fun r hr => ?_⟩
    rcases List.mem_append.mp hr with hold | hnew
    · exact hs.requests r hold
    · rw [List.mem_singleton.mp hnew]
      exact ⟨fun c hc => absurd hc (Option.not_mem_none c),
        fun _ c hc => absurd hc (Option.not_mem_none c)⟩
  | act i action =>
    obtain ⟨r, turn, hr, hturn, rfl⟩ := step_act h
    rw [keepsContext, hr, Option.all_some] at hkeeps
    have hsound :=
      sound_advance (hs.requests r (List.mem_of_getElem? hr)) hs.isolated.2 hkeeps hturn
    refine ⟨⟨fun e he => ?_, hsound.idle⟩, fun r' hr' => ?_⟩
    · exact (List.mem_append.mp he).elim (hs.isolated.1 e) (hsound.ran e)
    · rcases List.mem_or_eq_of_mem_set hr' with hold | rfl
      · exact hs.requests r' hold
      · exact hsound.request

/-- A step after which the law holds keeps the context. -/
theorem keepsContext_of_isolated (hs : Sound s) (h : step s label = some s') (h' : Isolated s') :
    keepsContext s label = true := by
  cases label with
  | arrive orgId userId => rfl
  | act i action =>
    obtain ⟨r, turn, hr, hturn, rfl⟩ := step_act h
    rw [keepsContext, hr, Option.all_some]
    exact keepsContext_of_advance (hs.requests r (List.mem_of_getElem? hr)) hs.isolated.2 hturn
      (fun e he => h'.1 e (List.mem_append_right _ he)) h'.2

/-- **Isolation.** In a run of the pool every statement runs with the context of its request and no
idle connection carries one, at every time, exactly if every request that has a context does all
its work in the transaction in which the context is set, and does not commit it. -/
theorem isolated_iff_along (h : exec step Pool.empty labels = some s) :
    (∀ pre s', pre <+: labels → exec step Pool.empty pre = some s' → Isolated s') ↔
      Along step (fun s a => keepsContext s a = true) Pool.empty labels := by
  have hempty : Sound Pool.empty :=
    ⟨⟨fun e he => absurd he List.not_mem_nil, fun _ h => absurd h List.not_mem_nil⟩,
      fun r hr => absurd hr List.not_mem_nil⟩
  exact forall_prefix_iff_along_of_invariant (I := Sound) (fun _ hs => hs.isolated)
    (fun _ _ _ hs hstep h' => keepsContext_of_isolated hs hstep h')
    (fun _ _ _ hs hkeeps hstep => sound_step hs hkeeps hstep) hempty h

/-! ### Two requests -/

/-- A request that reads and is closed, and then an anonymous one. -/
def readOnly : List Label :=
  [.arrive (some ['o']) (some ['u']), .act 0 (.setContext none), .act 0 (.execute none true),
    .act 0 (.clear none true), .act 0 .close, .arrive none none, .act 1 (.execute (some 0) true)]

theorem isolated_iff_along_readOnly : (exec step Pool.empty readOnly).isSome = true ∧
    ∀ pre s', pre <+: readOnly → exec step Pool.empty pre = some s' → Isolated s' := by
  have hsome : (exec step Pool.empty readOnly).isSome = true := by decide
  have halong : Along step (fun s a => keepsContext s a = true) Pool.empty readOnly := by decide
  exact ⟨hsome, (isolated_iff_along (Option.some_get hsome).symm).mpr halong⟩

/-- The same with a commit in between. -/
def writing : List Label :=
  [.arrive (some ['o']) (some ['u']), .act 0 (.setContext none), .act 0 (.execute none true),
    .act 0 .commit, .arrive none none, .act 1 (.execute (some 0) true)]

/-- A request that commits leaves its context on an idle connection, and an anonymous request runs
a statement with it. -/
theorem commit_leaks :
    ¬ ∀ (labels : List Label) (s : Pool), exec step Pool.empty labels = some s → Isolated s := by
  intro h
  have hran : ((exec step Pool.empty writing).map fun s => s.ran.all fun e => e.2 = e.1) =
      some false := by decide
  obtain ⟨s, hs, hall⟩ := Option.map_eq_some_iff.mp hran
  have hisolated : (s.ran.all fun e => e.2 = e.1) = true :=
    List.all_eq_true.mpr fun e he => decide_eq_true ((h writing s hs).1 e he)
  rw [hall] at hisolated
  exact absurd hisolated Bool.false_ne_true

end Rls

end OpenLangGraph

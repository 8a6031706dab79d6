import OpenLangGraph.Services.Federation.Discovery
import Mathlib.Data.List.Flatten

/-!
# Bad entries in the list of a peer

The loop of `_discover_peer_agents` over the entries of a list, with the resolution of each card in
one go, and `discover_agents` over the loops of all peers. An entry is bad if it is malformed, or if
its card is not resolved. Do the others come out as if it were absent?

## What a bad entry does

Only the check of its URL is in a `try`, and only for one exception. An entry that is no object has
no `get`, and a URL with a bad port is a `ValueError`; then all agents of the peer are lost, those
before the entry too. An entry whose card is not resolved counts as a failure of the peer. Enough of
them open the breaker, and good entries behind them are passed over.

## Scope

The peers have ids of their own, so that no two tasks of a call meet in a breaker. What the
resolution of an entry comes to, and the clocks it reads, belong to the entry: without the bad
entries the others are resolved as they are with them.

## Main definitions

* `Visit` — an entry, with what its resolution comes to
* `entryLoop`, `discoverPeerAgents`, `discoverAgents` — the loop, a task, and the call
* `Visit.isGood`, `PeerCall.withoutBad` — without the bad entries
* `hidesNone` — no bad entry stands in the way of another

## Main results

* `entryLoop_of_exec` — a task of a run goes through the loop
* `withoutBad_sublist_iff` — when no agent is hidden
* `hidden_by_string` — a string in the list
-/

namespace OpenLangGraph

namespace Discovery

open Transition PyString

/-! ### The loop -/

/-- What `retry_async` comes to for a card. -/
inductive Resolution
  | card (card : AgentCard)
  /-- `None`, if the resolver does not let the URL pass -/
  | nothing
  | raises

/-- An entry of the list, the time at which the breaker is asked, and how and when the resolution
ends, if the entry comes so far. -/
structure Visit where
  agent : Json
  asked : ℤ
  ended : Clocks
  resolution : Resolution

/-- What becomes of the request for the list. -/
inductive PeerReply
  | fails
  | lists (visits : List Visit)

/-- A task of a call: the peer, its breaker, and what is answered. -/
structure PeerCall where
  peer : PeerConfig
  breaker : CircuitBreaker
  asked : ℤ
  reply : PeerReply

section

variable (setting : Setting) (peer : PeerConfig) (filters : Option AgentSearchFilters)

/-- The loop body up to the call of `_resolve_peer_card`: the entry, nothing for an entry that is
skipped, and `none` for an exception. -/
def readEntry (agent : Json) : Option (Option ListedAgent) :=
  match listEntry setting agent with
  | none => none
  | some entry =>
    if entry.endpointUrl = [] then some none
    else
      match setting.validate entry.endpointUrl with
      | .error (.ssrfValidationError _) => some none
      | .error (.valueError _) => none
      | .ok _ => some (some entry)

/-- The agent of an entry, if its card matches the filters. -/
def agentOf (entry : ListedAgent) (card : AgentCard) (now : Clocks) : Option DiscoveredAgent :=
  if filters.all (matchesFilters setting.env.unicode.lower card
      (extractTagsFromSkills setting.env.unicode.lower card)) then
    some (discoveredAgent setting peer entry card now)
  else none

/-- The end of the loop body: what the breaker is told, and the agent. -/
def settle (state : CircuitBreaker × List DiscoveredAgent) (entry : ListedAgent) (ended : Clocks) :
    Resolution → CircuitBreaker × List DiscoveredAgent
  | .card card =>
    (state.1.recordSuccess, state.2 ++ (agentOf setting peer filters entry card ended).toList)
  | .nothing => (state.1.recordSuccess, state.2)
  | .raises => (state.1.recordFailure setting.breaker ended.monotonic, state.2)

/-- The loop body; `none` is an exception that leaves it. -/
def visit (state : CircuitBreaker × List DiscoveredAgent) (v : Visit) :
    Option (CircuitBreaker × List DiscoveredAgent) :=
  match readEntry setting v.agent with
  | none => none
  | some none => some state
  | some (some entry) =>
    let (breaker, allowed) := state.1.allowRequest setting.breaker v.asked
    if allowed then
      some (settle setting peer filters (breaker, state.2) entry v.ended v.resolution)
    else some (breaker, state.2)

/-- The loop. -/
def entryLoop (state : CircuitBreaker × List DiscoveredAgent) (visits : List Visit) :
    Option (CircuitBreaker × List DiscoveredAgent) :=
  visits.foldlM (visit setting peer filters) state

/-- `_discover_peer_agents` -/
def discoverPeerAgents (call : PeerCall) : Option (List DiscoveredAgent) :=
  let (breaker, allowed) := call.breaker.allowRequest setting.breaker call.asked
  if allowed then
    match call.reply with
    | .fails => some []
    | .lists visits =>
      (entryLoop setting call.peer filters (breaker.recordSuccess, []) visits).map Prod.snd
  else some []

/-- `discover_agents`: a task that an exception has left gives nothing. -/
def discoverAgents (calls : List PeerCall) : List DiscoveredAgent :=
  calls.flatMap fun call => (discoverPeerAgents setting filters call).getD []

/-! ### Bad entries -/

/-- The entry with its card, if nothing is wrong with either. -/
def Visit.resolved (v : Visit) : Option (ListedAgent × AgentCard) :=
  match readEntry setting v.agent, v.resolution with
  | some (some entry), .card card => some (entry, card)
  | _, _ => none

/-- The entry is well formed, and its card is resolved. -/
def Visit.isGood (v : Visit) : Bool := (v.resolved setting).isSome

/-- The agent of a good entry. -/
def Visit.finds (v : Visit) : Option DiscoveredAgent :=
  (v.resolved setting).bind fun e => agentOf setting peer filters e.1 e.2 v.ended

/-- The same call, if its list had no bad entries. -/
def PeerCall.withoutBad (call : PeerCall) : PeerCall :=
  { call with
    reply := match call.reply with
      | .fails => .fails
      | .lists visits => .lists (visits.filter (Visit.isGood setting)) }

/-- The breaker after an entry. -/
def breakerAfter (b : CircuitBreaker) (v : Visit) : CircuitBreaker :=
  match readEntry setting v.agent with
  | some (some _) =>
    let (b, allowed) := b.allowRequest setting.breaker v.asked
    if allowed then
      match v.resolution with
      | .raises => b.recordFailure setting.breaker v.ended.monotonic
      | _ => b.recordSuccess
    else b
  | _ => b

/-- From this state of the breaker on, no entry raises, and every good entry that there is an agent
for finds the breaker admitting it. -/
def hidesNone : CircuitBreaker → List Visit → Bool
  | _, [] => true
  | b, v :: visits =>
    (readEntry setting v.agent).isSome &&
      ((v.finds setting peer filters).isNone || b.admits setting.breaker v.asked) &&
      hidesNone (breakerAfter setting b v) visits

/-- A task that hides no agent: there is none to hide, or nothing that hides it. -/
def PeerCall.hidesNone (call : PeerCall) : Bool :=
  let (breaker, allowed) := call.breaker.allowRequest setting.breaker call.asked
  match call.reply with
  | .fails => true
  | .lists visits =>
    !allowed || visits.all (fun v => (v.finds setting call.peer filters).isNone) ||
      Discovery.hidesNone setting call.peer filters breaker.recordSuccess visits

end

section

variable {setting : Setting} {peer : PeerConfig} {filters : Option AgentSearchFilters}
  {b : CircuitBreaker} {found : List DiscoveredAgent} {v : Visit} {visits : List Visit}

/-- **One entry.** -/
theorem visit_eq (b : CircuitBreaker) (found : List DiscoveredAgent) (v : Visit) :
    visit setting peer filters (b, found) v =
      (readEntry setting v.agent).map fun _ => (breakerAfter setting b v, found ++
        (if b.admits setting.breaker v.asked then v.finds setting peer filters
          else none).toList) := by
  rw [visit, breakerAfter, Visit.finds, Visit.resolved, CircuitBreaker.admits]
  cases readEntry setting v.agent with
  | none => rfl
  | some entry =>
    cases entry with
    | none => simp
    | some entry =>
      dsimp only
      by_cases hallowed : (b.allowRequest setting.breaker v.asked).2 = true
      · cases v.resolution <;> simp [hallowed, settle]
      · simp [hallowed]

theorem entryLoop_cons (b : CircuitBreaker) (found : List DiscoveredAgent) (v : Visit)
    (visits : List Visit) :
    entryLoop setting peer filters (b, found) (v :: visits) =
      (readEntry setting v.agent).bind fun _ =>
        entryLoop setting peer filters (breakerAfter setting b v, found ++
          (if b.admits setting.breaker v.asked then v.finds setting peer filters
            else none).toList) visits := by
  rw [entryLoop, List.foldlM_cons, visit_eq]
  cases readEntry setting v.agent <;> rfl

/-- The loop finds agents of good entries only. -/
theorem entryLoop_sublist {state : CircuitBreaker × List DiscoveredAgent}
    (h : entryLoop setting peer filters (b, found) visits = some state) :
    ∃ more, state.2 = found ++ more ∧
      more.Sublist (visits.filterMap (Visit.finds setting peer filters)) := by
  induction visits generalizing b found with
  | nil =>
    obtain rfl := Option.some.inj h
    exact ⟨[], (List.append_nil _).symm, .slnil⟩
  | cons v visits ih =>
    rw [entryLoop_cons] at h
    obtain ⟨-, -, h⟩ := Option.bind_eq_some_iff.mp h
    obtain ⟨more, hmore, hsub⟩ := ih h
    rw [List.append_assoc] at hmore
    refine ⟨_, hmore, ?_⟩
    have hcons : (v :: visits).filterMap (Visit.finds setting peer filters) =
        (v.finds setting peer filters).toList ++
          visits.filterMap (Visit.finds setting peer filters) := by
      cases hfinds : v.finds setting peer filters with
      | none => rw [List.filterMap_cons_none hfinds]; rfl
      | some agent => rw [List.filterMap_cons_some hfinds]; rfl
    rw [hcons]
    refine List.Sublist.append ?_ hsub
    split
    · exact List.Sublist.refl _
    · exact List.nil_sublist _

/-- **The whole loop** finds the agents of all good entries if and only if none is hidden. -/
theorem entryLoop_eq_iff (found : List DiscoveredAgent) :
    (∃ b', entryLoop setting peer filters (b, found) visits =
      some (b', found ++ visits.filterMap (Visit.finds setting peer filters))) ↔
      hidesNone setting peer filters b visits = true := by
  induction visits generalizing b found with
  | nil => simp [entryLoop, hidesNone]
  | cons v visits ih =>
    rw [entryLoop_cons, hidesNone]
    cases hread : readEntry setting v.agent with
    | none => simp
    | some entry =>
      rw [Option.bind_some, Option.isSome_some, Bool.true_and]
      cases hfinds : v.finds setting peer filters with
      | none =>
        rw [List.filterMap_cons_none hfinds, ite_self, Option.toList_none, List.append_nil, ih]
        simp
      | some agent =>
        rw [List.filterMap_cons_some hfinds, Option.isNone_some, Bool.false_or]
        by_cases hadmits : b.admits setting.breaker v.asked = true
        · have hrest := @ih (breakerAfter setting b v) (found ++ [agent])
          rw [List.append_assoc, List.singleton_append] at hrest
          rw [if_pos hadmits, Option.toList_some, hadmits, Bool.true_and, hrest]
        · have hdenied : b.admits setting.breaker v.asked = false := Bool.eq_false_iff.mpr hadmits
          rw [if_neg hadmits, Option.toList_none, List.append_nil, hdenied, Bool.false_and]
          refine iff_of_false ?_ Bool.false_ne_true
          rintro ⟨b', hloop⟩
          obtain ⟨more, hmore, hsub⟩ := entryLoop_sublist hloop
          have hlength := hsub.length_le
          rw [← List.append_cancel_left hmore, List.length_cons] at hlength
          omega

/-! ### Without the bad entries -/

/-- A good entry leaves a closed breaker closed. -/
theorem breakerAfter_closed (hv : v.isGood setting = true) (hb : b.state = .closed) :
    (breakerAfter setting b v).state = .closed := by
  obtain ⟨e, he⟩ := Option.isSome_iff_exists.mp hv
  rw [Visit.resolved] at he
  split at he
  · next entry card hentry hcard =>
    rw [breakerAfter, hentry, hcard, CircuitBreaker.allowRequest_closed hb]
    exact CircuitBreaker.recordSuccess_state
  · cases he

/-- Among good entries none is hidden. -/
theorem hidesNone_of_good (peer : PeerConfig) (filters : Option AgentSearchFilters)
    (hvisits : ∀ v ∈ visits, v.isGood setting = true)
    (hb : b.state = .closed) : hidesNone setting peer filters b visits = true := by
  induction visits generalizing b with
  | nil => rfl
  | cons v visits ih =>
    obtain ⟨hv, hvisits⟩ := List.forall_mem_cons.mp hvisits
    have hread : (readEntry setting v.agent).isSome = true := by
      rw [Visit.isGood, Visit.resolved] at hv
      split at hv
      · next hentry _ => rw [hentry]; rfl
      · cases hv
    rw [hidesNone, hread, CircuitBreaker.admits, CircuitBreaker.allowRequest_closed hb,
      Bool.or_true, Bool.true_and, Bool.true_and]
    exact ih hvisits (breakerAfter_closed hv hb)

/-- Only good entries have agents. -/
theorem filterMap_finds_filter (visits : List Visit) :
    (visits.filter (Visit.isGood setting)).filterMap (Visit.finds setting peer filters) =
      visits.filterMap (Visit.finds setting peer filters) := by
  rw [List.filterMap_filter]
  refine List.filterMap_congr fun v _ => ?_
  rw [Visit.isGood, Visit.finds]
  cases v.resolved setting <;> rfl

/-- The agents of a task, if its list had no bad entries. -/
def PeerCall.owed (setting : Setting) (filters : Option AgentSearchFilters) (call : PeerCall) :
    List DiscoveredAgent :=
  match call.reply with
  | .fails => []
  | .lists visits =>
    if call.breaker.admits setting.breaker call.asked then
      visits.filterMap (Visit.finds setting call.peer filters)
    else []

theorem discoverPeerAgents_withoutBad (call : PeerCall) :
    discoverPeerAgents setting filters (call.withoutBad setting) =
      some (call.owed setting filters) := by
  rw [discoverPeerAgents, PeerCall.owed, PeerCall.withoutBad, CircuitBreaker.admits]
  by_cases hallowed : (call.breaker.allowRequest setting.breaker call.asked).2 = true
  · cases hreply : call.reply with
    | fails => simp [hallowed]
    | lists visits =>
      have hgood : ∀ v ∈ visits.filter (Visit.isGood setting), v.isGood setting = true :=
        fun v hv => (List.mem_filter.mp hv).2
      have hclosed : (call.breaker.allowRequest setting.breaker
          call.asked).1.recordSuccess.state = .closed := CircuitBreaker.recordSuccess_state
      obtain ⟨b', hloop⟩ :=
        (entryLoop_eq_iff []).mpr (hidesNone_of_good call.peer filters hgood hclosed)
      rw [filterMap_finds_filter] at hloop
      simp [hallowed, hloop]
  · cases call.reply <;> simp [hallowed]

/-- A task finds no other agents. -/
theorem discoverPeerAgents_sublist (call : PeerCall) :
    ((discoverPeerAgents setting filters call).getD []).Sublist (call.owed setting filters) := by
  rw [discoverPeerAgents, PeerCall.owed, CircuitBreaker.admits]
  by_cases hallowed : (call.breaker.allowRequest setting.breaker call.asked).2 = true
  · cases hreply : call.reply with
    | fails => simp [hallowed]
    | lists visits =>
      simp only [hallowed, if_true]
      cases hloop : entryLoop setting call.peer filters
          ((call.breaker.allowRequest setting.breaker call.asked).1.recordSuccess, []) visits with
      | none => exact List.nil_sublist _
      | some state =>
        obtain ⟨more, hmore, hsub⟩ := entryLoop_sublist hloop
        rw [Option.map_some, Option.getD_some, hmore]
        exact hsub
  · simp [hallowed]

/-- There is no agent to hide. -/
theorem all_isNone_iff (visits : List Visit) :
    (visits.all fun v => (v.finds setting peer filters).isNone) = true ↔
      visits.filterMap (Visit.finds setting peer filters) = [] := by
  simp [List.all_eq_true, List.filterMap_eq_nil_iff]

/-- **One task** finds all agents that it would find without the bad entries if and only if it
hides none. -/
theorem owed_sublist_iff (call : PeerCall) :
    (call.owed setting filters).Sublist ((discoverPeerAgents setting filters call).getD []) ↔
      call.hidesNone setting filters = true := by
  rw [discoverPeerAgents, PeerCall.owed, PeerCall.hidesNone, CircuitBreaker.admits]
  by_cases hallowed : (call.breaker.allowRequest setting.breaker call.asked).2 = true
  · cases call.reply with
    | fails => simp [hallowed]
    | lists visits =>
      simp only [hallowed, if_true, Bool.not_true, Bool.false_or, Bool.or_eq_true, all_isNone_iff]
      rw [← entryLoop_eq_iff [], List.nil_append]
      cases hloop : entryLoop setting call.peer filters
          ((call.breaker.allowRequest setting.breaker call.asked).1.recordSuccess, []) visits with
      | none => simp
      | some state =>
        obtain ⟨more, hmore, hsub⟩ := entryLoop_sublist hloop
        rw [Option.map_some, Option.getD_some, hmore, List.nil_append]
        constructor
        · intro howed
          obtain rfl := hsub.eq_of_length_le howed.length_le
          exact .inr ⟨state.1, congrArg some (Prod.ext rfl hmore)⟩
        · rintro (hnil | ⟨b', hall⟩)
          · rw [hnil]
            exact List.nil_sublist _
          · obtain rfl := Option.some.inj hall
            rw [← List.nil_append more, ← hmore]
  · cases call.reply <;> simp [hallowed]

/-- Lists put together of parts. -/
theorem flatMap_sublist_flatMap_iff {α β : Type*} {f g : α → List β} {l : List α}
    (h : ∀ a ∈ l, (g a).Sublist (f a)) :
    (l.flatMap f).Sublist (l.flatMap g) ↔ ∀ a ∈ l, (f a).Sublist (g a) := by
  induction l with
  | nil => simp
  | cons a l ih =>
    obtain ⟨ha, hl⟩ := List.forall_mem_cons.mp h
    rw [List.flatMap_cons, List.flatMap_cons, List.forall_mem_cons]
    constructor
    · intro hsub
      have hrest : (l.flatMap g).Sublist (l.flatMap f) := .flatMap_right l hl
      have hlength := hsub.length_le
      rw [List.length_append, List.length_append] at hlength
      have hfirst := ha.eq_of_length_le (by have := hrest.length_le; omega)
      have hall := hrest.eq_of_length_le (by have := ha.length_le; omega)
      exact ⟨hfirst ▸ List.Sublist.refl _, (ih hl).mp (hall ▸ List.Sublist.refl _)⟩
    · rintro ⟨hfirst, hrest⟩
      exact hfirst.append ((ih hl).mpr hrest)

/-- **When no bad entry hides another**: in each task, every entry can be read without an exception
other than the one that is caught, and every good entry finds the breaker admitting it, unless there
is no agent to hide. -/
theorem withoutBad_sublist_iff (setting : Setting) (filters : Option AgentSearchFilters)
    (calls : List PeerCall) :
    (discoverAgents setting filters (calls.map (PeerCall.withoutBad setting))).Sublist
      (discoverAgents setting filters calls) ↔
      ∀ call ∈ calls, call.hidesNone setting filters = true := by
  have howed : discoverAgents setting filters (calls.map (PeerCall.withoutBad setting)) =
      calls.flatMap (PeerCall.owed setting filters) := by
    rw [discoverAgents, List.flatMap_map]
    refine List.flatMap_congr fun call _ => ?_
    rw [discoverPeerAgents_withoutBad, Option.getD_some]
  rw [howed, discoverAgents,
    flatMap_sublist_flatMap_iff fun call _ => discoverPeerAgents_sublist call]
  exact forall₂_congr fun call _ => owed_sublist_iff call

/-! ### A task of a run goes through the loop -/

theorem Shared.breaker_withBreaker (shared : Shared) (id id' : Str) (b : CircuitBreaker) :
    (shared.withBreaker id b).breaker id' = if id' = id then b else shared.breaker id' := by
  rw [Shared.breaker, Shared.withBreaker, PyDict.get, PyDict.lookup_set]
  by_cases h : id' = id
  · rw [if_pos h, if_pos h]; rfl
  · rw [if_neg h, if_neg h]; rfl

@[simp] theorem Shared.breaker_fetchCard (shared : Shared) (peer : PeerConfig) (cacheKey id : Str) :
    (shared.fetchCard setting peer cacheKey).breaker id = shared.breaker id := rfl

@[simp] theorem Shared.breaker_fetchPeerList (shared : Shared) (peer : PeerConfig) (id : Str) :
    (shared.fetchPeerList peer).breaker id = shared.breaker id := rfl

@[simp] theorem Shared.breaker_keepCard (shared : Shared) (cacheKey : Str) (card : AgentCard)
    (now : ℤ) (id : Str) :
    (shared.keepCard setting cacheKey card now).breaker id = shared.breaker id := by
  rw [Shared.keepCard]
  split <;> rfl

/-- The part of an entry before the resolver. -/
theorem Task.nextEntry_eq (shared : Shared) (task : Task) (now : Clocks) (agent : Json)
    (rest : List Json) : task.nextEntry setting shared now agent rest =
      match readEntry setting agent with
      | none => (shared, { task with stage := .failed })
      | some none => (shared, { task with stage := .entries rest })
      | some (some entry) =>
        let (shared, allowed) := shared.allowRequest setting now.monotonic task.peer.id
        if allowed then (shared, { task with stage := .resolving entry rest 1 })
        else (shared, { task with stage := .entries rest }) := by
  rw [nextEntry, readEntry]
  cases listEntry setting agent with
  | none => rfl
  | some entry =>
    dsimp only
    by_cases hempty : entry.endpointUrl = []
    · rw [if_pos hempty, if_pos hempty]
    · rw [if_neg hempty, if_neg hempty]
      cases setting.validate entry.endpointUrl with
      | error e => cases e <;> rfl
      | ok url => rfl

end

/-- The task is in the loop, or behind it. -/
def Task.inLoop (task : Task) : Bool :=
  match task.stage with
  | .start | .listing _ | .awaitingList _ => false
  | _ => true

/-- The task, with its breaker in the given state, may come to the result: the breaker and the
agents at the end, or an exception. -/
def Loops (setting : Setting) (b : CircuitBreaker) (task : Task)
    (result : Option (CircuitBreaker × List DiscoveredAgent)) : Prop :=
  match task.stage with
  | .entries agents => ∃ visits, visits.map Visit.agent = agents ∧
      entryLoop setting task.peer task.filters (b, task.discovered) visits = result
  | .resolving entry rest _ | .awaitingCard entry rest _ _ _ => ∃ resolution ended visits,
      visits.map Visit.agent = rest ∧
      entryLoop setting task.peer task.filters
        (settle setting task.peer task.filters (b, task.discovered) entry ended resolution)
        visits = result
  | .done => result = some (b, task.discovered)
  | .failed => result = none
  | .start | .listing _ | .awaitingList _ => False

section

variable {setting : Setting} {shared shared' : Shared} {task task' : Task} {now : Clocks}
  {reply : Reply} {result : Option (CircuitBreaker × List DiscoveredAgent)}

theorem Task.found_eq (entry : ListedAgent) (rest : List Json) (card : AgentCard) :
    task.found setting entry rest card now =
      { task with
        stage := .entries rest
        discovered := task.discovered ++
          (agentOf setting task.peer task.filters entry card now).toList } := by
  rw [found, agentOf, wants]
  split <;> simp

/-- The breaker, after it was asked. -/
theorem Shared.allowRequest_eq (shared : Shared) (now : ℤ) (id : Str) :
    shared.allowRequest setting now id =
      (shared.withBreaker id ((shared.breaker id).allowRequest setting.breaker now).1,
        ((shared.breaker id).allowRequest setting.breaker now).2) := rfl

/-- What a step of a task leaves alone. -/
structure Task.Frames (shared : Shared) (task : Task) (shared' : Shared) (task' : Task) : Prop where
  peer : task'.peer = task.peer
  filters : task'.filters = task.filters
  breaker : ∀ id, id ≠ task.peer.id → shared'.breaker id = shared.breaker id

theorem Task.frames_withBreaker (b : CircuitBreaker) {task' : Task}
    (hpeer : task'.peer = task.peer) (hfilters : task'.filters = task.filters) :
    Frames shared task (shared.withBreaker task.peer.id b) task' :=
  ⟨hpeer, hfilters, fun id hid => by rw [Shared.breaker_withBreaker, if_neg hid]⟩

theorem Task.frames_go (h : task.go setting shared now = some (shared', task')) :
    Frames shared task shared' task' := by
  rw [go] at h
  split at h
  · obtain ⟨rfl, rfl⟩ := Prod.mk.inj (Option.some.inj h)
    exact frames_withBreaker _ rfl rfl
  · obtain ⟨rfl, rfl⟩ := Prod.mk.inj (Option.some.inj h)
    exact ⟨rfl, rfl, fun _ _ => rfl⟩
  · obtain ⟨rfl, rfl⟩ := Prod.mk.inj (Option.some.inj h)
    exact ⟨rfl, rfl, fun _ _ => rfl⟩
  · rw [nextEntry_eq] at h
    split at h
    · obtain ⟨rfl, rfl⟩ := Prod.mk.inj (Option.some.inj h)
      exact ⟨rfl, rfl, fun _ _ => rfl⟩
    · obtain ⟨rfl, rfl⟩ := Prod.mk.inj (Option.some.inj h)
      exact ⟨rfl, rfl, fun _ _ => rfl⟩
    · dsimp only [Shared.allowRequest_eq] at h
      split at h
      · obtain ⟨rfl, rfl⟩ := Prod.mk.inj (Option.some.inj h)
        exact frames_withBreaker _ rfl rfl
      · obtain ⟨rfl, rfl⟩ := Prod.mk.inj (Option.some.inj h)
        exact frames_withBreaker _ rfl rfl
  · rw [getAgentCard] at h
    split at h
    · obtain ⟨rfl, rfl⟩ := Prod.mk.inj (Option.some.inj h)
      exact frames_withBreaker _ rfl rfl
    · obtain ⟨rfl, rfl⟩ := Prod.mk.inj (Option.some.inj h)
      exact frames_withBreaker _ rfl rfl
    · dsimp only at h
      split at h
      · rw [found_eq] at h
        obtain ⟨rfl, rfl⟩ := Prod.mk.inj (Option.some.inj h)
        exact frames_withBreaker _ rfl rfl
      · obtain ⟨rfl, rfl⟩ := Prod.mk.inj (Option.some.inj h)
        exact ⟨rfl, rfl, fun _ _ => rfl⟩
  all_goals cases h

theorem Task.frames_advance (h : task.advance setting shared now reply = some (shared', task')) :
    Frames shared task shared' task' := by
  cases reply with
  | go => exact frames_go h
  | payload data =>
    rw [advance, payload] at h
    split at h
    · obtain ⟨rfl, rfl⟩ := Prod.mk.inj (Option.some.inj h)
      exact frames_withBreaker _ rfl rfl
    · obtain ⟨rfl, rfl⟩ := Prod.mk.inj (Option.some.inj h)
      exact frames_withBreaker _ rfl rfl
    · cases h
  | card card =>
    rw [advance, receive] at h
    split at h
    · rw [found_eq] at h
      obtain ⟨rfl, rfl⟩ := Prod.mk.inj (Option.some.inj h)
      refine ⟨rfl, rfl, fun id hid => ?_⟩
      rw [Shared.recordSuccess, Shared.breaker_withBreaker, if_neg hid, Shared.breaker_keepCard]
    · cases h
  | raises retryable =>
    rw [advance, raises] at h
    split at h
    · split at h
      · obtain ⟨rfl, rfl⟩ := Prod.mk.inj (Option.some.inj h)
        exact ⟨rfl, rfl, fun _ _ => rfl⟩
      · obtain ⟨rfl, rfl⟩ := Prod.mk.inj (Option.some.inj h)
        exact frames_withBreaker _ rfl rfl
    · split at h
      · obtain ⟨rfl, rfl⟩ := Prod.mk.inj (Option.some.inj h)
        exact ⟨rfl, rfl, fun _ _ => rfl⟩
      · obtain ⟨rfl, rfl⟩ := Prod.mk.inj (Option.some.inj h)
        exact frames_withBreaker _ rfl rfl
    · cases h

/-- The loop goes on behind an entry that was asked for. -/
theorem loops_entries {rest : List Json} {agent : Json} (v : Visit) (hv : v.agent = agent)
    {b b' : CircuitBreaker} {discovered : List DiscoveredAgent}
    (hvisit : visit setting task.peer task.filters (b, task.discovered) v = some (b', discovered))
    (h : Loops setting b' { task with stage := .entries rest, discovered } result) :
    Loops setting b { task with stage := .entries (agent :: rest) } result := by
  obtain ⟨visits, hvisits, hloop⟩ := h
  refine ⟨v :: visits, by rw [List.map_cons, hv, hvisits], ?_⟩
  rw [entryLoop, List.foldlM_cons, hvisit]
  exact hloop

/-- A visit of an entry that does not come to its resolution. -/
def Visit.unresolved (agent : Json) (asked : ℤ) : Visit := ⟨agent, asked, ⟨0, 0⟩, .raises⟩

theorem loops_nextEntry {agent : Json} {rest : List Json}
    (h : Loops setting ((task.nextEntry setting shared now agent rest).1.breaker task.peer.id)
      (task.nextEntry setting shared now agent rest).2 result) :
    Loops setting (shared.breaker task.peer.id) { task with stage := .entries (agent :: rest) }
      result := by
  rw [Task.nextEntry_eq] at h
  cases hread : readEntry setting agent with
  | none =>
    rw [hread] at h
    refine ⟨(agent :: rest).map fun agent => .unresolved agent 0, ?_, ?_⟩
    · rw [List.map_map]
      exact List.map_id _
    · rw [List.map_cons, entryLoop, List.foldlM_cons, visit, Visit.unresolved, hread]
      exact h.symm
  | some entry =>
    cases entry with
    | none =>
      rw [hread] at h
      refine loops_entries (.unresolved agent 0) rfl ?_ h
      rw [visit, Visit.unresolved, hread]
    | some entry =>
      rw [hread] at h
      dsimp only [Shared.allowRequest_eq] at h
      by_cases hallowed : ((shared.breaker task.peer.id).allowRequest setting.breaker
          now.monotonic).2 = true
      · rw [if_pos hallowed, Shared.breaker_withBreaker, if_pos rfl] at h
        obtain ⟨resolution, ended, visits, hvisits, hloop⟩ := h
        refine ⟨⟨agent, now.monotonic, ended, resolution⟩ :: visits, ?_, ?_⟩
        · rw [List.map_cons, hvisits]
        · rw [entryLoop, List.foldlM_cons, visit, hread]
          dsimp only
          rw [if_pos hallowed]
          exact hloop
      · rw [if_neg hallowed, Shared.breaker_withBreaker, if_pos rfl] at h
        refine loops_entries (.unresolved agent now.monotonic) rfl ?_ h
        rw [visit, Visit.unresolved, hread]
        dsimp only
        rw [if_neg hallowed]

/-- The end of an entry that was asked for. -/
theorem loops_settle (task : Task) {entry : ListedAgent} {rest : List Json}
    (resolution : Resolution) (ended : Clocks) {b b' : CircuitBreaker} {discovered : List DiscoveredAgent}
    (hsettle : settle setting task.peer task.filters (b, task.discovered) entry ended resolution =
      (b', discovered))
    (h : Loops setting b' { task with stage := .entries rest, discovered } result) :
    ∃ resolution ended visits, visits.map Visit.agent = rest ∧
      entryLoop setting task.peer task.filters
        (settle setting task.peer task.filters (b, task.discovered) entry ended resolution)
        visits = result := by
  obtain ⟨visits, hvisits, hloop⟩ := h
  exact ⟨resolution, ended, visits, hvisits, hsettle ▸ hloop⟩

theorem loops_getAgentCard {entry : ListedAgent} {rest : List Json} {attempt : ℕ}
    (h : Loops setting
      ((task.getAgentCard setting shared now entry rest attempt).1.breaker task.peer.id)
      (task.getAgentCard setting shared now entry rest attempt).2 result) :
    Loops setting (shared.breaker task.peer.id)
      { task with stage := .resolving entry rest attempt } result := by
  rw [Task.getAgentCard] at h
  split at h
  · rw [Shared.recordSuccess, Shared.breaker_withBreaker, if_pos rfl] at h
    exact loops_settle task .nothing now rfl h
  · rw [Shared.recordFailure, Shared.breaker_withBreaker, if_pos rfl] at h
    exact loops_settle task .raises now rfl h
  · dsimp only at h
    split at h
    · next card _ =>
      rw [Task.found_eq, Shared.recordSuccess, Shared.breaker_withBreaker, if_pos rfl] at h
      exact loops_settle task (.card card) now rfl h
    · exact h

theorem Task.inLoop_nextEntry (shared : Shared) (task : Task) (now : Clocks) (agent : Json)
    (rest : List Json) : (task.nextEntry setting shared now agent rest).2.inLoop = true := by
  rw [nextEntry_eq]
  split
  · rfl
  · rfl
  · dsimp only
    split <;> rfl

theorem Task.inLoop_getAgentCard (shared : Shared) (task : Task) (now : Clocks)
    (entry : ListedAgent) (rest : List Json) (attempt : ℕ) :
    (task.getAgentCard setting shared now entry rest attempt).2.inLoop = true := by
  rw [getAgentCard]
  split
  · rfl
  · rfl
  · dsimp only
    split
    · rw [found_eq]
      rfl
    · rfl

/-- **One step of a task** in the loop. -/
theorem loops_advance (result : Option (CircuitBreaker × List DiscoveredAgent))
    (hstage : task.inLoop = true)
    (h : task.advance setting shared now reply = some (shared', task')) :
    task'.inLoop = true ∧ (Loops setting (shared'.breaker task.peer.id) task' result →
      Loops setting (shared.breaker task.peer.id) task result) := by
  obtain ⟨peer, filters, stage, discovered⟩ := task
  cases reply with
  | go =>
    rw [Task.advance, Task.go] at h
    cases stage with
    | entries agents =>
      rcases agents with _ | ⟨agent, rest⟩
      · obtain ⟨rfl, rfl⟩ := Prod.mk.inj (Option.some.inj h)
        exact ⟨rfl, fun hloops => ⟨[], rfl, hloops.symm⟩⟩
      · obtain ⟨rfl, rfl⟩ := Prod.mk.inj (Option.some.inj h)
        exact ⟨Task.inLoop_nextEntry .., loops_nextEntry⟩
    | resolving entry rest attempt =>
      obtain ⟨rfl, rfl⟩ := Prod.mk.inj (Option.some.inj h)
      exact ⟨Task.inLoop_getAgentCard .., loops_getAgentCard⟩
    | start | listing | awaitingList => cases hstage
    | awaitingCard | done | failed => cases h
  | payload data =>
    rw [Task.advance, Task.payload] at h
    cases stage with
    | awaitingList => cases hstage
    | _ => cases h
  | card card =>
    rw [Task.advance, Task.receive] at h
    cases stage with
    | awaitingCard entry rest attempt cacheKey since =>
      dsimp only at h
      rw [Task.found_eq] at h
      obtain ⟨rfl, rfl⟩ := Prod.mk.inj (Option.some.inj h)
      refine ⟨rfl, fun hloops => ?_⟩
      rw [Shared.recordSuccess, Shared.breaker_withBreaker, if_pos rfl,
        Shared.breaker_keepCard] at hloops
      exact loops_settle ⟨peer, filters, .done, discovered⟩ (.card card) now rfl hloops
    | _ => cases h
  | raises retryable =>
    rw [Task.advance, Task.raises] at h
    cases stage with
    | awaitingCard entry rest attempt cacheKey since =>
      dsimp only at h
      split at h
      · obtain ⟨rfl, rfl⟩ := Prod.mk.inj (Option.some.inj h)
        exact ⟨rfl, id⟩
      · obtain ⟨rfl, rfl⟩ := Prod.mk.inj (Option.some.inj h)
        refine ⟨rfl, fun hloops => ?_⟩
        rw [Shared.recordFailure, Shared.breaker_withBreaker, if_pos rfl] at hloops
        exact loops_settle ⟨peer, filters, .done, discovered⟩ .raises now rfl hloops
    | awaitingList => cases hstage
    | _ => cases h

/-- **A run of the service**, in which nothing else works with the peer: where a task has got to
is where the loop may come to. -/
theorem loops_exec (result : Option (CircuitBreaker × List DiscoveredAgent)) {labels : List Label}
    {s s' : Service} {i : ℕ} (htask : s.tasks[i]? = some task)
    (hstage : task.inLoop = true)
    (hothers : ∀ j other, s.tasks[j]? = some other → j ≠ i → other.peer.id ≠ task.peer.id)
    (hlabels : ∀ label ∈ labels, ∃ j now reply, label = .task j now reply)
    (h : exec (step setting) s labels = some s') (htask' : s'.tasks[i]? = some task')
    (hresult : Loops setting (s'.shared.breaker task.peer.id) task' result) :
    Loops setting (s.shared.breaker task.peer.id) task result := by
  induction labels generalizing s task with
  | nil =>
    obtain rfl := Option.some.inj h
    obtain rfl := Option.some.inj (htask.symm.trans htask')
    exact hresult
  | cons label labels ih =>
    obtain ⟨⟨j, now, reply, rfl⟩, hrest⟩ := List.forall_mem_cons.mp hlabels
    obtain ⟨t, hstep, hexec⟩ := exec_cons_eq_some.mp h
    obtain ⟨mover, hmover, hstep⟩ := Option.bind_eq_some_iff.mp hstep
    obtain ⟨⟨shared, next⟩, hadvance, rfl⟩ := Option.map_eq_some_iff.mp hstep
    have hframes := Task.frames_advance hadvance
    have hj : j < s.tasks.length := (List.getElem?_eq_some_iff.mp hmover).1
    have hpeers : ∀ (k : ℕ) (other : Task), (s.tasks.set j next)[k]? = some other → ∃ old : Task,
        s.tasks[k]? = some old ∧ other.peer = old.peer := by
      intro k other hother
      by_cases hk : k = j
      · rw [hk, List.getElem?_set_self hj] at hother
        obtain rfl := Option.some.inj hother
        exact ⟨mover, hk ▸ hmover, hframes.peer⟩
      · rw [List.getElem?_set_ne (Ne.symm hk)] at hother
        exact ⟨other, hother, rfl⟩
    by_cases hji : j = i
    · subst hji
      obtain rfl := Option.some.inj (htask.symm.trans hmover)
      obtain ⟨hnext, hloops⟩ := loops_advance result hstage hadvance
      refine hloops ?_
      rw [← hframes.peer] at hresult ⊢
      refine ih (List.getElem?_set_self hj) hnext (fun k other hother hk => ?_) hrest hexec hresult
      obtain ⟨old, hold, hpeer⟩ := hpeers k other hother
      rw [hpeer, hframes.peer]
      exact hothers k old hold hk
    · have hbreaker := hframes.breaker task.peer.id (hothers j mover hmover hji).symm
      rw [← hbreaker]
      refine ih ?_ hstage (fun k other hother hk => ?_) hrest hexec hresult
      · rw [List.getElem?_set_ne hji]
        exact htask
      · obtain ⟨old, hold, hpeer⟩ := hpeers k other hother
        rw [hpeer]
        exact hothers k old hold hk

/-- **A task goes through the loop**: from the list to its end, with the agents and the breaker that
the loop comes to for some answers to the entries of the list, or with an exception that the loop
comes to. -/
theorem entryLoop_of_exec {labels : List Label} {s s' : Service} {i : ℕ} {agents : List Json}
    (htask : s.tasks[i]? = some task) (hstage : task.stage = .entries agents)
    (hothers : ∀ j other, s.tasks[j]? = some other → j ≠ i → other.peer.id ≠ task.peer.id)
    (hlabels : ∀ label ∈ labels, ∃ j now reply, label = .task j now reply)
    (h : exec (step setting) s labels = some s') (htask' : s'.tasks[i]? = some task') :
    (task'.stage = .done → ∃ visits, visits.map Visit.agent = agents ∧
      entryLoop setting task.peer task.filters
        (s.shared.breaker task.peer.id, task.discovered) visits =
          some (s'.shared.breaker task.peer.id, task'.discovered)) ∧
    (task'.stage = .failed → ∃ visits, visits.map Visit.agent = agents ∧
      entryLoop setting task.peer task.filters
        (s.shared.breaker task.peer.id, task.discovered) visits = none) := by
  have hin : task.inLoop = true := by rw [Task.inLoop, hstage]
  constructor
  · intro hdone
    have hloops := loops_exec (some (s'.shared.breaker task.peer.id, task'.discovered))
      htask hin hothers hlabels h htask' (by rw [Loops, hdone])
    rwa [Loops, hstage] at hloops
  · intro hfailed
    have hloops := loops_exec none htask hin hothers hlabels h htask'
      (by rw [Loops, hfailed])
    rwa [Loops, hstage] at hloops

end

/-! ### A string in the list -/

/-- A visit of an agent at a public address, whose card is resolved. -/
def goodVisit : Visit where
  agent := .obj [("graph_id", .str "g"), ("endpoint_url", .str "https://8.8.8.8")]
  asked := 0
  ended := ⟨0, 0⟩
  resolution := .card ⟨['a'], [], "https://8.8.8.8".toList, [], [], []⟩

/-- A call of one peer, with a new breaker. -/
def sampleCall (visits : List Visit) : PeerCall where
  peer := ⟨['p'], "https://9.9.9.8".toList, none, none, by decide⟩
  breaker := .init
  asked := 0
  reply := .lists visits

/-- Five agents whose cards are not resolved hide the one behind them. -/
example : (sampleCall (List.replicate 5 { goodVisit with resolution := .raises } ++
    [goodVisit])).hidesNone sampleSetting none = false := by decide

/-- The peer lists a string beside an agent. -/
theorem hidden_by_string :
    ¬ ∀ (setting : Setting) (filters : Option AgentSearchFilters) (calls : List PeerCall),
      (discoverAgents setting filters (calls.map (PeerCall.withoutBad setting))).Sublist
        (discoverAgents setting filters calls) := by
  intro h
  have hlength := (h sampleSetting none
    [sampleCall [goodVisit, .unresolved (.str "agent") 0]]).length_le
  exact absurd hlength (by decide)

end Discovery

end OpenLangGraph

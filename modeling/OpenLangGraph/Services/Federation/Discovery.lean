import OpenLangGraph.Core.CircuitBreaker
import OpenLangGraph.Foundation.Json
import OpenLangGraph.Foundation.PyDict
import OpenLangGraph.Utils.UrlValidator

/-!
# Discovery of agents across federation peers

`FederationService.discover_agents`: one task for each selected peer asks the peer for its list of
agents, and then resolves the agent card of each listed agent. The tasks run at the same time, over
the breakers, the HTTP clients and the card cache of the service.

## Between two awaits

A task is cut at its awaits, and once more at each entry of the list and at each reading of a clock.
What a peer or a card endpoint answers is in the label, and so is the reading of the clock. The
resolver of host names answers alike throughout.

## The HTTP client

The client of a peer is made once for each peer id, with the headers of the peer it is first needed
for. The resolver of the cards has one client for all peers and is given the headers with each call.
A request is recorded with the peer whose headers it carries.

## Main definitions

* `PeerConfig`, `DiscoveredAgent`, `AgentCard`
* `listEntry`, `Task.found` — an entry of the list, and the agent made of it
* `Task.advance`, `step` — one task, and the service
* `Service.requests`, `Service.finds` — what a step adds

## Main results

* `sent_step`, `mem_discovered_step` — the requests and the agents of a step
* `forall_discovered_iff_along` — what holds of all agents of a run
-/

namespace OpenLangGraph

namespace Discovery

open Transition PyString

/-! ### Configuration -/

/-- A peer of the configuration. Validation strips the slashes at the end of the base URL. -/
structure PeerConfig where
  id : Str
  baseUrl : Str
  authType : Option Str
  authToken : Option Str
  baseUrl_stripped : rstrip (fun c => c = '/') baseUrl = baseUrl

/-- `_build_headers`: the `Authorization` header, if there is one. -/
def buildHeaders (lower : Str → Str) (peer : PeerConfig) : Option Str :=
  match truthy peer.authType with
  | none => none
  | some authType =>
    if lower authType = "bearer".toList then
      (truthy peer.authToken).map fun token => "Bearer ".toList ++ token
    else none

/-- `_filter_peers` -/
def filterPeers (peers : List PeerConfig) : Option (List Str) → List PeerConfig
  | none | some [] => peers
  | some peerIds => peers.filter fun peer => peerIds.contains peer.id

/-- What the service is run with. `str` prints a JSON value, `cardPath` is where the resolver of the
package looks for a card, without the slash in front. -/
structure Setting where
  config : UrlValidator.Config
  env : UrlValidator.Env
  breaker : BreakerConfig
  maxAttempts : ℕ
  ttlSeconds : ℤ
  cardPath : Str
  str : Json → Str
  str_str : ∀ s, str (.str s) = s.toList

/-- `validate_url_for_ssrf(url)` -/
def Setting.validate (setting : Setting) (url : Str) : Except UrlValidator.PyException String :=
  UrlValidator.validateUrlForSsrf setting.config setting.env (String.ofList url) none false

/-- The check lets a URL pass. -/
def Setting.passes (setting : Setting) (url : Str) : Bool := (setting.validate url).isOk

/-- `max(1, policy.max_attempts)` -/
def Setting.attempts (setting : Setting) : ℕ := max 1 setting.maxAttempts

/-! ### Agents -/

structure AgentSkill where
  id : Str
  name : Str
  description : Str
  tags : List Str
deriving DecidableEq

/-- The fields of an agent card that are read; `capabilities` holds the attributes, `null` for the
ones that are not set. -/
structure AgentCard where
  name : Str
  description : Str
  url : Str
  version : Str
  skills : List AgentSkill
  capabilities : List (Str × Json)

structure AgentSearchFilters where
  skills : Option (List Str)
  tags : Option (List Str)
  capabilities : Option (List (Str × Bool))
  nameContains : Option Str

structure DiscoveredAgent where
  graphId : Str
  name : Str
  description : Str
  url : Str
  version : Str
  skills : List AgentSkill
  tags : List Str
  capabilities : List (Str × Json)
  isHealthy : Bool
  registeredAt : ℤ
  agentCardUrl : Str
  /-- the peer in `source` -/
  peerId : Str

/-- `_HTML_TAG_PATTERN.sub("", text)`; `skip` characters still belong to a tag. -/
def stripTags : ℕ → Str → Str
  | _, [] => []
  | skip + 1, _ :: s => stripTags skip s
  | 0, c :: s =>
    let inner := s.takeWhile (· ≠ '>')
    if c = '<' ∧ inner ≠ [] ∧ inner.length < s.length then stripTags (inner.length + 1) s
    else c :: stripTags 0 s

/-- `html.escape(text, quote=True)` -/
def escapeHtml (s : Str) : Str :=
  s.flatMap fun c =>
    if c = '&' then "&amp;".toList
    else if c = '<' then "&lt;".toList
    else if c = '>' then "&gt;".toList
    else if c.toNat = 0x22 then "&quot;".toList
    else if c.toNat = 0x27 then "&#x27;".toList
    else [c]

/-- `sanitize_text(text, strip_html=True)` -/
def sanitizeText (isSpace : Char → Bool) (text : Str) : Str :=
  strip isSpace (escapeHtml (stripTags 0 (text.take 10000)))

/-- `_extract_tags_from_skills` -/
def extractTagsFromSkills (lower : Str → Str) (card : AgentCard) : List Str :=
  card.skills.flatMap fun skill =>
    skill.id :: (if lower skill.name ≠ lower skill.id then [lower skill.name] else []) ++ skill.tags

/-- `needle in text` -/
def occurs (needle text : Str) : Bool := text.tails.any needle.isPrefixOf

/-- `_matches_filters` -/
def matchesFilters (lower : Str → Str) (card : AgentCard) (tags : List Str)
    (filters : AgentSearchFilters) : Bool :=
  ((truthy filters.nameContains).all fun name => occurs (lower name) (lower card.name)) &&
  (filters.skills.all fun skills => skills = [] || skills.any fun s =>
    card.skills.any fun skill => lower skill.id = lower s || lower skill.name = lower s) &&
  (filters.tags.all fun wanted => wanted = [] || wanted.any fun t =>
    tags.any fun tag => lower tag = lower t) &&
  (filters.capabilities.all fun wanted => wanted.all fun capability =>
    match card.capabilities.lookup capability.1 with
    | some (.bool value) => value = capability.2
    | _ => false)

/-! ### An entry of the list -/

/-- What is read from an entry. -/
structure ListedAgent where
  graphId : Str
  endpointUrl : Str
  agentCardUrl : Option Str

/-- The key of the card in the cache. -/
def ListedAgent.cacheKey (entry : ListedAgent) : Str := rstrip (fun c => c = '/') entry.endpointUrl

/-- The fields of an entry; one that is no object has no `get`. -/
def listEntry (setting : Setting) : Json → Option ListedAgent
  | .obj entries =>
    let field (name : String) : Str := ((entries.lookup name).map setting.str).getD []
    some
      { graphId := field "graph_id"
        endpointUrl := rstrip (fun c => c = '/') (field "endpoint_url")
        agentCardUrl := truthy (some (strip setting.env.unicode.isSpace (field "agent_card_url"))) }
  | _ => none

/-- The list in the payload of a peer. -/
def listOfPayload : Json → Option (List Json)
  | .obj entries =>
    match (entries.lookup "agents").getD (.arr []) with
    | .arr agents => some agents
    | _ => none
  | _ => none

/-- The path of the card at the base URL of the resolver. -/
def Setting.cardUrl (setting : Setting) (baseUrl : Str) : Str := baseUrl ++ '/' :: setting.cardPath

def wellKnownPath : Str := ".well-known/agent-card.json".toList

def isNull : Json → Bool
  | .null => true
  | _ => false

/-- The link of an agent: the one that is listed, or else one made of the URL in the card. -/
def agentCardUrl (entry : ListedAgent) (card : AgentCard) : Str :=
  entry.agentCardUrl.getD (card.url ++ '/' :: wellKnownPath)

/-- The readings of `time.monotonic` and `datetime.now`. -/
structure Clocks where
  monotonic : ℤ
  utc : ℤ

/-- The agent made of an entry and its card. -/
def discoveredAgent (setting : Setting) (peer : PeerConfig) (entry : ListedAgent)
    (card : AgentCard) (now : Clocks) : DiscoveredAgent :=
  let sanitize := sanitizeText setting.env.unicode.isSpace
  { graphId := sanitize entry.graphId
    name := sanitize card.name
    description := sanitize card.description
    url := card.url
    version := sanitize card.version
    skills := card.skills.map fun skill =>
      ⟨sanitize skill.id, sanitize skill.name, sanitize skill.description,
        skill.tags.map sanitize⟩
    tags := (extractTagsFromSkills setting.env.unicode.lower card).map sanitize
    capabilities := card.capabilities.filter fun capability => !isNull capability.2
    isHealthy := true
    registeredAt := now.utc
    agentCardUrl := agentCardUrl entry card
    peerId := peer.id }

/-! ### The service -/

/-- A request, with the peer whose headers it carries. -/
structure HttpRequest where
  url : Str
  credentialsOf : PeerConfig

/-- What the tasks share. -/
structure Shared where
  breakers : List (Str × CircuitBreaker)
  /-- the clients, each with the peer whose headers it was made with -/
  clients : List (Str × PeerConfig)
  /-- the cards, each until it expires -/
  cache : List (Str × AgentCard × ℤ)
  sent : List HttpRequest

namespace Shared

variable (shared : Shared)

/-- `_get_breaker` -/
def breaker (id : Str) : CircuitBreaker := (PyDict.get shared.breakers id).getD .init

def withBreaker (id : Str) (b : CircuitBreaker) : Shared :=
  { shared with breakers := PyDict.set shared.breakers id b }

def allowRequest (setting : Setting) (now : ℤ) (id : Str) : Shared × Bool :=
  let (b, allowed) := (shared.breaker id).allowRequest setting.breaker now
  (shared.withBreaker id b, allowed)

def recordSuccess (id : Str) : Shared := shared.withBreaker id (shared.breaker id).recordSuccess

def recordFailure (setting : Setting) (now : ℤ) (id : Str) : Shared :=
  shared.withBreaker id ((shared.breaker id).recordFailure setting.breaker now)

/-- The peer whose headers the client of a peer has: `_get_http_client`. -/
def clientOf (peer : PeerConfig) : PeerConfig := (PyDict.get shared.clients peer.id).getD peer

/-- The request of `_fetch_peer_list`. -/
def fetchPeerList (peer : PeerConfig) : Shared :=
  { shared with
    clients := PyDict.setdefault shared.clients peer.id peer
    sent := shared.sent ++ [⟨peer.baseUrl ++ "/a2a/".toList, shared.clientOf peer⟩] }

/-- The request of `get_agent_card`. -/
def fetchCard (setting : Setting) (peer : PeerConfig) (cacheKey : Str) : Shared :=
  { shared with sent := shared.sent ++ [⟨setting.cardUrl cacheKey, peer⟩] }

/-- The card in the cache. -/
def cachedCard (now : ℤ) (cacheKey : Str) : Option AgentCard :=
  ((PyDict.get shared.cache cacheKey).filter fun e => e.2 > now).map Prod.fst

def keepCard (setting : Setting) (cacheKey : Str) (card : AgentCard) (now : ℤ) : Shared :=
  if max 0 setting.ttlSeconds > 0 then
    { shared with
      cache := PyDict.set shared.cache cacheKey (card, now + max 0 setting.ttlSeconds) }
  else shared

end Shared

/-! ### A task -/

/-- Where `_discover_peer_agents` is. -/
inductive Stage
  | start
  | listing (attempt : ℕ)
  | awaitingList (attempt : ℕ)
  /-- the loop over the list, with the entries that are left -/
  | entries (agents : List Json)
  | resolving (entry : ListedAgent) (rest : List Json) (attempt : ℕ)
  | awaitingCard (entry : ListedAgent) (rest : List Json) (attempt : ℕ) (cacheKey : Str) (since : ℤ)
  | done
  /-- an exception has left the task -/
  | failed

structure Task where
  peer : PeerConfig
  filters : Option AgentSearchFilters
  stage : Stage
  discovered : List DiscoveredAgent

/-- What comes back from an await. -/
inductive Reply
  /-- nothing is awaited -/
  | go
  | payload (data : Json)
  | card (card : AgentCard)
  | raises (retryable : Bool)

namespace Task

/-- The card matches the filters. -/
def wants (setting : Setting) (task : Task) (card : AgentCard) : Bool :=
  task.filters.all (matchesFilters setting.env.unicode.lower card
    (extractTagsFromSkills setting.env.unicode.lower card))

/-- The end of the loop body, once there is a card. -/
def found (setting : Setting) (task : Task) (entry : ListedAgent) (rest : List Json)
    (card : AgentCard) (now : Clocks) : Task :=
  if task.wants setting card then
    { task with
      stage := .entries rest
      discovered := task.discovered ++ [discoveredAgent setting task.peer entry card now] }
  else { task with stage := .entries rest }

/-- One entry of the list, up to the call of the resolver. -/
def nextEntry (setting : Setting) (shared : Shared) (task : Task) (now : Clocks) (agent : Json)
    (rest : List Json) : Shared × Task :=
  match listEntry setting agent with
  | none => (shared, { task with stage := .failed })
  | some entry =>
    if entry.endpointUrl = [] then (shared, { task with stage := .entries rest })
    else
      match setting.validate entry.endpointUrl with
      | .error (.ssrfValidationError _) => (shared, { task with stage := .entries rest })
      | .error (.valueError _) => (shared, { task with stage := .failed })
      | .ok _ =>
        let (shared, allowed) := shared.allowRequest setting now.monotonic task.peer.id
        if allowed then (shared, { task with stage := .resolving entry rest 1 })
        else (shared, { task with stage := .entries rest })

/-- `get_agent_card` up to its request. -/
def getAgentCard (setting : Setting) (shared : Shared) (task : Task) (now : Clocks)
    (entry : ListedAgent) (rest : List Json) (attempt : ℕ) : Shared × Task :=
  match setting.validate entry.endpointUrl with
  | .error (.ssrfValidationError _) =>
    (shared.recordSuccess task.peer.id, { task with stage := .entries rest })
  | .error (.valueError _) =>
    (shared.recordFailure setting now.monotonic task.peer.id, { task with stage := .entries rest })
  | .ok baseUrl =>
    let cacheKey := rstrip (fun c => c = '/') baseUrl.toList
    match shared.cachedCard now.monotonic cacheKey with
    | some card => (shared.recordSuccess task.peer.id, task.found setting entry rest card now)
    | none =>
      (shared.fetchCard setting task.peer cacheKey,
        { task with stage := .awaitingCard entry rest attempt cacheKey now.monotonic })

/-- A step of a task that awaits nothing. -/
def go (setting : Setting) (shared : Shared) (task : Task) (now : Clocks) :
    Option (Shared × Task) :=
  match task.stage with
  | .start =>
    let (shared, allowed) := shared.allowRequest setting now.monotonic task.peer.id
    some (shared, { task with stage := if allowed then .listing 1 else .done })
  | .listing attempt =>
    some (shared.fetchPeerList task.peer, { task with stage := .awaitingList attempt })
  | .entries [] => some (shared, { task with stage := .done })
  | .entries (agent :: rest) => some (nextEntry setting shared task now agent rest)
  | .resolving entry rest attempt =>
    some (getAgentCard setting shared task now entry rest attempt)
  | .awaitingList _ | .awaitingCard _ _ _ _ _ | .done | .failed => none

/-- The payload of a peer has arrived. -/
def payload (setting : Setting) (shared : Shared) (task : Task) (now : Clocks) (data : Json) :
    Option (Shared × Task) :=
  match task.stage, listOfPayload data with
  | .awaitingList _, some agents =>
    some (shared.recordSuccess task.peer.id, { task with stage := .entries agents })
  | .awaitingList _, none =>
    some (shared.recordFailure setting now.monotonic task.peer.id, { task with stage := .done })
  | _, _ => none

/-- A card has arrived. It is kept from the time at which it was asked for. -/
def receive (setting : Setting) (shared : Shared) (task : Task) (now : Clocks) (card : AgentCard) :
    Option (Shared × Task) :=
  match task.stage with
  | .awaitingCard entry rest _ cacheKey since =>
    some ((shared.keepCard setting cacheKey card since).recordSuccess task.peer.id,
      task.found setting entry rest card now)
  | _ => none

/-- The await has raised: `retry_async`, and the `except` around it. -/
def raises (setting : Setting) (shared : Shared) (task : Task) (now : Clocks) (retryable : Bool) :
    Option (Shared × Task) :=
  match task.stage with
  | .awaitingList attempt =>
    if retryable && attempt < setting.attempts then
      some (shared, { task with stage := .listing (attempt + 1) })
    else
      some (shared.recordFailure setting now.monotonic task.peer.id, { task with stage := .done })
  | .awaitingCard entry rest attempt _ _ =>
    if retryable && attempt < setting.attempts then
      some (shared, { task with stage := .resolving entry rest (attempt + 1) })
    else
      some (shared.recordFailure setting now.monotonic task.peer.id,
        { task with stage := .entries rest })
  | _ => none

/-- One step of a task. -/
def advance (setting : Setting) (shared : Shared) (task : Task) (now : Clocks) :
    Reply → Option (Shared × Task)
  | .go => task.go setting shared now
  | .payload data => task.payload setting shared now data
  | .card card => task.receive setting shared now card
  | .raises retryable => task.raises setting shared now retryable

end Task

/-! ### The service over time -/

structure Service where
  shared : Shared
  tasks : List Task

def Service.init : Service := ⟨⟨[], [], [], []⟩, []⟩

inductive Label
  /-- `discover_agents`, with the peers of the configuration at that time -/
  | discover (peers : List PeerConfig) (peerIds : Option (List Str))
      (filters : Option AgentSearchFilters)
  /-- a step of a task -/
  | task (i : ℕ) (now : Clocks) (reply : Reply)

def step (setting : Setting) (s : Service) : Label → Option Service
  | .discover peers peerIds filters =>
    some { s with
      tasks := s.tasks ++ (filterPeers peers peerIds).map fun peer => ⟨peer, filters, .start, []⟩ }
  | .task i now reply =>
    s.tasks[i]?.bind fun task =>
      (task.advance setting s.shared now reply).map fun next =>
        ⟨next.1, s.tasks.set i next.2⟩

/-- The agents that have been discovered. A task that is done returns its own. -/
def Service.discovered (s : Service) : List DiscoveredAgent := s.tasks.flatMap Task.discovered

/-- A setting with the defaults of the code, and a resolver that knows no names. -/
def sampleSetting : Setting where
  config := ⟨true, false⟩
  env := ⟨.ascii, fun _ => none⟩
  breaker := .ofArguments 5 30 1
  maxAttempts := 3
  ttlSeconds := 300
  cardPath := wellKnownPath
  str data := (data.asStr.map String.toList).getD []
  str_str _ := rfl

/-! ### What a step adds -/

/-- The check returns the URL that it was given. -/
theorem eq_of_validate {setting : Setting} {url : Str} {r : String}
    (h : setting.validate url = .ok r) : r.toList = url := by
  obtain ⟨rfl, -⟩ := UrlValidator.validateUrlForSsrf_eq_ok_iff.mp h
  exact String.toList_ofList

theorem passes_of_validate {setting : Setting} {url : Str} {r : String}
    (h : setting.validate url = .ok r) : setting.passes url = true := by
  rw [Setting.passes, h]
  rfl

theorem not_passes_of_validate {setting : Setting} {url : Str} {e : UrlValidator.PyException}
    (h : setting.validate url = .error e) : setting.passes url = false := by
  rw [Setting.passes, h]
  rfl

namespace Task

/-- The entry and the card with which a step comes to the end of the loop body. -/
def resolved (setting : Setting) (shared : Shared) (task : Task) (now : Clocks) :
    Reply → Option (ListedAgent × AgentCard)
  | .go =>
    match task.stage with
    | .resolving entry _ _ =>
      if setting.passes entry.endpointUrl then
        (shared.cachedCard now.monotonic entry.cacheKey).map fun card => (entry, card)
      else none
    | _ => none
  | .card card =>
    match task.stage with
    | .awaitingCard entry _ _ _ _ => some (entry, card)
    | _ => none
  | .payload _ | .raises _ => none

/-- The agent that a step adds. -/
def finds (setting : Setting) (shared : Shared) (task : Task) (now : Clocks) (reply : Reply) :
    Option DiscoveredAgent :=
  ((task.resolved setting shared now reply).filter fun e => task.wants setting e.2).map fun e =>
    discoveredAgent setting task.peer e.1 e.2 now

/-- The request that a step makes. -/
def request (setting : Setting) (shared : Shared) (task : Task) (now : Clocks) :
    Reply → Option HttpRequest
  | .go =>
    match task.stage with
    | .listing _ => some ⟨task.peer.baseUrl ++ "/a2a/".toList, shared.clientOf task.peer⟩
    | .resolving entry _ _ =>
      if setting.passes entry.endpointUrl &&
          (shared.cachedCard now.monotonic entry.cacheKey).isNone then
        some ⟨setting.cardUrl entry.cacheKey, task.peer⟩
      else none
    | _ => none
  | .payload _ | .card _ | .raises _ => none

variable {setting : Setting} {shared : Shared} {task : Task} {now : Clocks}

theorem discovered_found (entry : ListedAgent) (rest : List Json) (card : AgentCard) :
    (task.found setting entry rest card now).discovered = task.discovered ++
      (((some (entry, card)).filter fun e => task.wants setting e.2).map fun e =>
        discoveredAgent setting task.peer e.1 e.2 now).toList := by
  rw [found]
  by_cases h : task.wants setting card = true
  · simp [Option.filter_some, h]
  · simp [Option.filter_some, h]

/-- What a step of a task adds. -/
structure Adds (setting : Setting) (shared : Shared) (task : Task) (now : Clocks) (reply : Reply)
    (shared' : Shared) (task' : Task) : Prop where
  sent : shared'.sent = shared.sent ++ (task.request setting shared now reply).toList
  discovered :
    task'.discovered = task.discovered ++ (task.finds setting shared now reply).toList

/-- A step that makes no request and comes to no card. -/
theorem adds_nothing {reply : Reply} {shared' : Shared} {task' : Task}
    (hrequest : task.request setting shared now reply = none)
    (hresolved : task.resolved setting shared now reply = none)
    (hsent : shared'.sent = shared.sent) (hdiscovered : task'.discovered = task.discovered) :
    Adds setting shared task now reply shared' task' := by
  constructor
  · simp [hrequest, hsent]
  · simp [finds, hresolved, hdiscovered]

theorem adds_getAgentCard (setting : Setting) (shared : Shared) (now : Clocks)
    {entry : ListedAgent} {rest : List Json} {attempt : ℕ}
    (hstage : task.stage = .resolving entry rest attempt) :
    Adds setting shared task now .go (getAgentCard setting shared task now entry rest attempt).1
      (getAgentCard setting shared task now entry rest attempt).2 := by
  rw [getAgentCard]
  cases hvalidate : setting.validate entry.endpointUrl with
  | error e =>
    have hpasses := not_passes_of_validate hvalidate
    have hnone : task.request setting shared now .go = none ∧
        task.resolved setting shared now .go = none := by
      simp [request, resolved, hstage, hpasses]
    cases e with
    | ssrfValidationError _ => exact adds_nothing hnone.1 hnone.2 rfl rfl
    | valueError _ => exact adds_nothing hnone.1 hnone.2 rfl rfl
  | ok baseUrl =>
    have hpasses := passes_of_validate hvalidate
    dsimp only
    rw [eq_of_validate hvalidate, ← ListedAgent.cacheKey]
    cases hcached : shared.cachedCard now.monotonic entry.cacheKey with
    | some card =>
      constructor
      · simp [request, hstage, hcached, Shared.recordSuccess, Shared.withBreaker]
      · simpa [finds, resolved, hstage, hpasses, hcached] using discovered_found entry rest card
    | none =>
      constructor <;> simp [request, finds, resolved, hstage, hpasses, hcached, Shared.fetchCard]

theorem adds_nextEntry (setting : Setting) (shared : Shared) (now : Clocks) {agent : Json}
    {rest : List Json} (hstage : task.stage = .entries (agent :: rest)) :
    Adds setting shared task now .go (nextEntry setting shared task now agent rest).1
      (nextEntry setting shared task now agent rest).2 := by
  have hrequest : task.request setting shared now .go = none := by simp [request, hstage]
  have hresolved : task.resolved setting shared now .go = none := by simp [resolved, hstage]
  rw [nextEntry]
  split
  · exact adds_nothing hrequest hresolved rfl rfl
  · split
    · exact adds_nothing hrequest hresolved rfl rfl
    · split
      · exact adds_nothing hrequest hresolved rfl rfl
      · exact adds_nothing hrequest hresolved rfl rfl
      · dsimp only
        split
        · exact adds_nothing hrequest hresolved rfl rfl
        · exact adds_nothing hrequest hresolved rfl rfl

variable {shared' : Shared} {task' : Task}

theorem adds_go (h : task.go setting shared now = some (shared', task')) :
    Adds setting shared task now .go shared' task' := by
  rw [go] at h
  cases hstage : task.stage with
  | start =>
    rw [hstage] at h
    obtain ⟨rfl, rfl⟩ := Prod.mk.inj (Option.some.inj h)
    exact adds_nothing (by simp [request, hstage]) (by simp [resolved, hstage]) rfl rfl
  | listing attempt =>
    rw [hstage] at h
    obtain ⟨rfl, rfl⟩ := Prod.mk.inj (Option.some.inj h)
    constructor
    · simp [request, hstage, Shared.fetchPeerList]
    · simp [finds, resolved, hstage]
  | entries agents =>
    rw [hstage] at h
    rcases agents with _ | ⟨agent, rest⟩
    · obtain ⟨rfl, rfl⟩ := Prod.mk.inj (Option.some.inj h)
      exact adds_nothing (by simp [request, hstage]) (by simp [resolved, hstage]) rfl rfl
    · have hadds := adds_nextEntry setting shared now hstage
      rwa [Option.some.inj h] at hadds
  | resolving entry rest attempt =>
    rw [hstage] at h
    have hadds := adds_getAgentCard setting shared now hstage
    rwa [Option.some.inj h] at hadds
  | awaitingList | awaitingCard | done | failed =>
    rw [hstage] at h
    exact absurd h (Option.some_ne_none _).symm

theorem adds_payload {data : Json}
    (h : task.payload setting shared now data = some (shared', task')) :
    Adds setting shared task now (.payload data) shared' task' := by
  rw [payload] at h
  split at h
  · obtain ⟨rfl, rfl⟩ := Prod.mk.inj (Option.some.inj h)
    exact adds_nothing rfl rfl rfl rfl
  · obtain ⟨rfl, rfl⟩ := Prod.mk.inj (Option.some.inj h)
    exact adds_nothing rfl rfl rfl rfl
  · exact absurd h (Option.some_ne_none _).symm

/-- A card that arrives is the card of its entry. -/
theorem adds_receive {card : AgentCard}
    (h : task.receive setting shared now card = some (shared', task')) :
    Adds setting shared task now (.card card) shared' task' := by
  rw [receive] at h
  split at h
  · next entry rest attempt cacheKey since hstage =>
    obtain ⟨rfl, rfl⟩ := Prod.mk.inj (Option.some.inj h)
    constructor
    · rw [Shared.recordSuccess, Shared.withBreaker, Shared.keepCard]
      split <;> simp [request]
    · simpa [finds, resolved, hstage] using discovered_found entry rest card
  · exact absurd h (Option.some_ne_none _).symm

theorem adds_raises {retryable : Bool}
    (h : task.raises setting shared now retryable = some (shared', task')) :
    Adds setting shared task now (.raises retryable) shared' task' := by
  rw [raises] at h
  split at h
  · split at h
    · obtain ⟨rfl, rfl⟩ := Prod.mk.inj (Option.some.inj h)
      exact adds_nothing rfl rfl rfl rfl
    · obtain ⟨rfl, rfl⟩ := Prod.mk.inj (Option.some.inj h)
      exact adds_nothing rfl rfl rfl rfl
  · split at h
    · obtain ⟨rfl, rfl⟩ := Prod.mk.inj (Option.some.inj h)
      exact adds_nothing rfl rfl rfl rfl
    · obtain ⟨rfl, rfl⟩ := Prod.mk.inj (Option.some.inj h)
      exact adds_nothing rfl rfl rfl rfl
  · exact absurd h (Option.some_ne_none _).symm

/-- **One step of a task.** -/
theorem adds_advance {reply : Reply}
    (h : task.advance setting shared now reply = some (shared', task')) :
    Adds setting shared task now reply shared' task' := by
  cases reply with
  | go => exact adds_go h
  | payload data => exact adds_payload h
  | card card => exact adds_receive h
  | raises retryable => exact adds_raises h

end Task

namespace Service

/-- The request of a step. -/
def request (setting : Setting) (s : Service) : Label → Option HttpRequest
  | .discover _ _ _ => none
  | .task i now reply =>
    s.tasks[i]?.bind fun task => task.request setting s.shared now reply

/-- The agent of a step. -/
def finds (setting : Setting) (s : Service) : Label → Option DiscoveredAgent
  | .discover _ _ _ => none
  | .task i now reply => s.tasks[i]?.bind fun task => task.finds setting s.shared now reply

end Service

variable {setting : Setting} {s s' : Service} {label : Label}

/-- A member of a list is replaced by one that has more to give. -/
theorem mem_flatMap_set {α β : Type*} {f : α → List β} {l : List α} {i : ℕ} {x y : α}
    {more : List β} (hx : l[i]? = some x) (hy : f y = f x ++ more) {b : β} :
    b ∈ (l.set i y).flatMap f ↔ b ∈ l.flatMap f ∨ b ∈ more := by
  induction l generalizing i with
  | nil => cases hx
  | cons z l ih =>
    cases i with
    | zero =>
      obtain rfl := Option.some.inj hx
      simp only [List.set_cons_zero, List.flatMap_cons, hy, List.mem_append]
      tauto
    | succ i =>
      have hmem := ih (i := i) hx
      simp only [List.set_cons_succ, List.flatMap_cons, List.mem_append, hmem]
      tauto

/-- The step of one task, and what it adds. -/
theorem step_task {i : ℕ} {now : Clocks} {reply : Reply}
    (h : step setting s (.task i now reply) = some s') : ∃ task next, s.tasks[i]? = some task ∧
      Task.Adds setting s.shared task now reply s'.shared next ∧
        s'.tasks = s.tasks.set i next := by
  rw [step] at h
  obtain ⟨task, htask, h⟩ := Option.bind_eq_some_iff.mp h
  obtain ⟨next, hnext, rfl⟩ := Option.map_eq_some_iff.mp h
  exact ⟨task, next.2, htask, Task.adds_advance hnext, rfl⟩

/-- **The requests.** -/
theorem sent_step (h : step setting s label = some s') :
    s'.shared.sent = s.shared.sent ++ (s.request setting label).toList := by
  cases label with
  | discover peers peerIds filters =>
    obtain rfl := Option.some.inj h
    exact (List.append_nil _).symm
  | task i now reply =>
    obtain ⟨task, next, htask, hadds, -⟩ := step_task h
    rw [hadds.sent, Service.request, htask]
    rfl

/-- **The agents.** -/
theorem mem_discovered_step (h : step setting s label = some s') (agent : DiscoveredAgent) :
    agent ∈ s'.discovered ↔ agent ∈ s.discovered ∨ agent ∈ s.finds setting label := by
  cases label with
  | discover peers peerIds filters =>
    obtain rfl := Option.some.inj h
    have hnew : ((filterPeers peers peerIds).map fun peer =>
        (⟨peer, filters, .start, []⟩ : Task)).flatMap Task.discovered = [] := by
      rw [List.flatMap_eq_nil_iff]
      intro task htask
      obtain ⟨peer, -, rfl⟩ := List.mem_map.mp htask
      rfl
    simp [Service.discovered, Service.finds, hnew]
  | task i now reply =>
    obtain ⟨task, next, htask, hadds, htasks⟩ := step_task h
    rw [Service.discovered, Service.discovered, htasks, mem_flatMap_set htask hadds.discovered,
      Service.finds, htask]
    exact or_congr_right Option.mem_toList

/-- What holds of the agent of a step is what holds of the one made of its entry and card. -/
theorem forall_finds_iff {P : DiscoveredAgent → Prop} {i : ℕ} {now : Clocks} {reply : Reply} :
    (∀ agent ∈ s.finds setting (.task i now reply), P agent) ↔
      ∀ task, s.tasks[i]? = some task → ∀ e, task.resolved setting s.shared now reply = some e →
        task.wants setting e.2 = true → P (discoveredAgent setting task.peer e.1 e.2 now) := by
  rw [Service.finds]
  cases s.tasks[i]? with
  | none => simp
  | some task =>
    simp only [Option.bind_some, Option.some.injEq, forall_eq', Task.finds]
    cases task.resolved setting s.shared now reply with
    | none => simp
    | some e =>
      rw [Option.filter_some]
      by_cases hwants : task.wants setting e.2 = true
      · simp [hwants]
      · simp [hwants]

theorem discovered_init : Service.init.discovered = [] := rfl

/-- **The agents of a run.** What holds of every agent that a step adds is what holds of all
discovered agents at every time. -/
theorem forall_discovered_iff_along {P : DiscoveredAgent → Prop} {labels : List Label}
    (h : exec (step setting) Service.init labels = some s) :
    (∀ pre s', pre <+: labels → exec (step setting) Service.init pre = some s' →
      ∀ agent ∈ s'.discovered, P agent) ↔
        Along (step setting) (fun s a => ∀ agent ∈ s.finds setting a, P agent) Service.init
          labels := by
  refine forall_prefix_iff_along (S := fun _ => True) (fun _ _ _ _ _ => trivial) ?_ trivial ?_ h
  · intro s label s' _ hold hstep
    constructor
    · exact fun h' agent hagent =>
        h' agent ((mem_discovered_step hstep agent).mpr (.inr hagent))
    · intro hfinds agent hagent
      rcases (mem_discovered_step hstep agent).mp hagent with hmem | hnew
      · exact hold agent hmem
      · exact hfinds agent hnew
  · intro agent hagent
    rw [discovered_init] at hagent
    exact absurd hagent List.not_mem_nil

end Discovery

end OpenLangGraph

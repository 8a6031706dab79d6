import OpenLangGraph.Services.Federation.Discovery

/-!
# The credentials of a peer

The bearer token of a peer travels in the `Authorization` header of two kinds of requests: those for
the list of the peer, at its base URL, and those for the cards of the agents in the list, wherever
the list says.

## Two ways out

The endpoint of a listed agent is checked against internal addresses, not against the base URL of
the peer, so a list can send the token to any public host. And the client for the lists is kept by
the id of the peer: if another peer has the same id, in the same configuration or in a later one,
its list is asked for with the token of the first.

## Main definitions

* `UrlReader` — how the HTTP client reads a URL
* `Confined` — a request with the token of a peer goes to the peer
* `keepsToPeer` — what holds of a step that sends no token elsewhere

## Main results

* `confined_iff_along` — in which runs every request is confined, exactly
* `sends_token_elsewhere` — a run in which one is not
-/

namespace OpenLangGraph

namespace Discovery

open Transition PyString

/-- Where a request goes. -/
structure Origin where
  scheme : Str
  host : Str
  port : Option ℕ
deriving DecidableEq

/-- The origin of a URL as the HTTP client reads it, if it accepts the URL. The path of the lists
behind a base URL that does not end with a slash does not change the origin. -/
structure UrlReader where
  origin : Str → Option Origin
  origin_list : ∀ baseUrl o, rstrip (fun c => c = '/') baseUrl = baseUrl →
    origin (baseUrl ++ "/a2a/".toList) = some o → origin baseUrl = some o

variable (urls : UrlReader) (setting : Setting)

/-- The peer has a bearer token. -/
def hasToken (peer : PeerConfig) : Bool := (buildHeaders setting.env.unicode.lower peer).isSome

/-- A request to the URL is not sent, or goes where the base URL of the peer is. -/
def goesTo (url : Str) (peer : PeerConfig) : Bool :=
  (urls.origin url).all fun o => urls.origin peer.baseUrl = some o

/-- A request with the header of a peer goes to the peer. -/
def Confined (request : HttpRequest) : Prop :=
  hasToken setting request.credentialsOf = true →
    goesTo urls request.url request.credentialsOf = true

/-- If a step asks for a list, then the client of the peer was made for a peer without a token, for
one with the same base URL, or for one at the place of the list. If it asks for a card, the peer
has no token, or the card is at the place of the peer. -/
def keepsToPeer (s : Service) : Label → Bool
  | .task i now .go =>
    s.tasks[i]?.all fun task =>
      match task.stage with
      | .listing _ =>
        let owner := s.shared.clientOf task.peer
        !hasToken setting owner || owner.baseUrl = task.peer.baseUrl ||
          goesTo urls (task.peer.baseUrl ++ "/a2a/".toList) owner
      | .resolving entry _ _ =>
        !setting.passes entry.endpointUrl ||
          (s.shared.cachedCard now.monotonic entry.cacheKey).isSome ||
          !hasToken setting task.peer || goesTo urls (setting.cardUrl entry.cacheKey) task.peer
      | _ => true
  | _ => true

variable {urls setting} {s s' : Service} {label : Label} {labels : List Label}

/-- A peer's own list is at the place of the peer. -/
theorem goesTo_list {owner peer : PeerConfig} (h : owner.baseUrl = peer.baseUrl) :
    goesTo urls (peer.baseUrl ++ "/a2a/".toList) owner = true := by
  rw [goesTo, h]
  cases horigin : urls.origin (peer.baseUrl ++ "/a2a/".toList) with
  | none => rfl
  | some o =>
    rw [Option.all_some, urls.origin_list peer.baseUrl o peer.baseUrl_stripped horigin]
    exact decide_eq_true rfl

/-- The request of a step is confined if the step keeps to the peer. -/
theorem confined_request_iff :
    (∀ request ∈ s.request setting label, Confined urls setting request) ↔
      keepsToPeer urls setting s label = true := by
  cases label with
  | discover peers peerIds filters => simp [Service.request, keepsToPeer]
  | task i now reply =>
    cases htask : s.tasks[i]? with
    | none =>
      have hkeeps : keepsToPeer urls setting s (.task i now reply) = true := by
        cases reply <;> simp [keepsToPeer, htask]
      simp [Service.request, htask, hkeeps]
    | some task =>
      cases reply with
      | payload | card | raises => simp [Service.request, htask, Task.request, keepsToPeer]
      | go =>
        rw [Service.request, keepsToPeer, htask, Option.bind_some, Option.all_some, Task.request]
        cases task.stage with
        | listing attempt =>
          simp only [Option.mem_some_iff, forall_eq', Confined, Bool.or_eq_true, Bool.not_eq_true',
            decide_eq_true_eq, ← Bool.not_eq_true]
          by_cases howner : (s.shared.clientOf task.peer).baseUrl = task.peer.baseUrl
          · exact iff_of_true (fun _ => goesTo_list howner) (.inl (.inr howner))
          · simp only [howner, or_false]
            exact imp_iff_not_or
        | resolving entry rest attempt =>
          dsimp only
          by_cases hrequest : (setting.passes entry.endpointUrl &&
              (s.shared.cachedCard now.monotonic entry.cacheKey).isNone) = true
          · rw [if_pos hrequest]
            rw [Bool.and_eq_true, Option.isNone_iff_eq_none] at hrequest
            simp only [Option.mem_some_iff, forall_eq', Confined, hrequest.1, hrequest.2,
              Bool.not_true, Option.isSome_none, Bool.false_or, Bool.or_eq_true, Bool.not_eq_true',
              ← Bool.not_eq_true]
            exact imp_iff_not_or
          · rw [if_neg hrequest]
            refine iff_of_true (fun _ h => absurd h (Option.not_mem_none _)) ?_
            rw [Bool.and_eq_true, not_and_or, Bool.not_eq_true,
              Option.isNone_iff_eq_none] at hrequest
            rcases hrequest with hpasses | hcached
            · simp [hpasses]
            · simp [Option.isSome_iff_ne_none.mpr hcached]
        | _ => simp

/-- **Credentials.** In a run of the service every request with the token of a peer goes to the
peer exactly if no step leads elsewhere: no list is asked for with the token of a peer at another
place, and no card at another place with the token of the peer. -/
theorem confined_iff_along (h : exec (step setting) Service.init labels = some s) :
    (∀ pre s', pre <+: labels → exec (step setting) Service.init pre = some s' →
      ∀ request ∈ s'.shared.sent, Confined urls setting request) ↔
        Along (step setting) (fun s a => keepsToPeer urls setting s a = true) Service.init
          labels := by
  refine forall_prefix_iff_along (S := fun _ => True) (fun _ _ _ _ _ => trivial) ?_ trivial ?_ h
  · intro s label s' _ hconfined hstep
    rw [← confined_request_iff, sent_step hstep]
    constructor
    · exact fun h' request hrequest =>
        h' request (List.mem_append_right _ (Option.mem_toList.mpr hrequest))
    · intro hnew request hrequest
      rcases List.mem_append.mp hrequest with hold | hrequest
      · exact hconfined request hold
      · exact hnew request (Option.mem_toList.mp hrequest)
  · exact fun request hrequest => absurd hrequest List.not_mem_nil

/-! ### A peer -/

/-- The authority behind two slashes. -/
def authorityOf (rest : Str) : Option Str :=
  if rest.take 2 = ['/', '/'] then some ((rest.drop 2).takeWhile (· ≠ '/')) else none

/-- The origin of `scheme://authority`, with the authority as it stands. -/
def originOf (url : Str) : Option Origin :=
  match partition ':' url with
  | (scheme, true, rest) => (authorityOf rest).map fun host => ⟨scheme, host, none⟩
  | (_, false, _) => none

theorem originOf_append {scheme : Str} (hscheme : ':' ∉ scheme) (rest : Str) :
    originOf (scheme ++ ':' :: rest) = (authorityOf rest).map fun host => ⟨scheme, host, none⟩ := by
  rw [originOf, partition_append hscheme]

theorem originOf_of_notMem {url : Str} (h : ':' ∉ url) : originOf url = none := by
  have hcontains : url.contains ':' = false := by
    rw [← Bool.not_eq_true, List.contains_iff_mem]
    exact h
  rw [originOf, partition, hcontains]

theorem takeWhile_append_slash (rest path : Str) :
    (rest ++ '/' :: path).takeWhile (· ≠ '/') = rest.takeWhile (· ≠ '/') := by
  induction rest with
  | nil => rfl
  | cons c rest ih => rw [List.cons_append, List.takeWhile_cons, List.takeWhile_cons, ih]

/-- The reader of such URLs. -/
def sampleUrls : UrlReader where
  origin := originOf
  origin_list baseUrl o hstripped h := by
    by_cases hmem : ':' ∈ baseUrl
    · obtain ⟨scheme, rest, rfl, hscheme⟩ := List.eq_append_cons_of_mem hmem
      rw [List.append_assoc, List.cons_append, originOf_append hscheme] at h
      rw [originOf_append hscheme, ← h]
      rcases rest with _ | ⟨c, _ | ⟨d, rest⟩⟩
      · rfl
      · by_cases hc : c = '/'
        · subst hc
          simp [rstrip] at hstripped
        · simp [authorityOf, hc]
      · have htake := takeWhile_append_slash rest "a2a/".toList
        simp only [authorityOf, List.cons_append, List.take_succ_cons, List.take_zero,
          List.drop_succ_cons, List.drop_zero]
        exact congrArg (fun host => Option.map _ (if [c, d] = ['/', '/'] then some host else none))
          htake.symm
    · have hnone : ':' ∉ baseUrl ++ "/a2a/".toList := by
        rw [List.mem_append, not_or]
        exact ⟨hmem, by decide⟩
      rw [originOf_of_notMem hnone] at h
      exact absurd h.symm (Option.some_ne_none o)

/-- A peer with a token, and with a path in its base URL. -/
def tokenPeer : PeerConfig :=
  ⟨['p'], "https://9.9.9.9/org".toList, some "Bearer".toList, some ['t'], by decide⟩

/-- The list of the peer, with one endpoint. -/
def listOf (endpointUrl : String) : Json :=
  .obj [("agents", .arr [.obj [("endpoint_url", .str endpointUrl)]])]

/-- A discovery up to the request for a card. -/
def tokenRun (endpointUrl : String) : List Label :=
  .discover [tokenPeer] none none ::
    [.go, .go, .payload (listOf endpointUrl), .go, .go].map (.task 0 ⟨0, 0⟩)

theorem confined_iff_along_own :
    (exec (step sampleSetting) Service.init (tokenRun "https://9.9.9.9/a2a/agent")).isSome = true ∧
      ∀ pre s', pre <+: tokenRun "https://9.9.9.9/a2a/agent" →
        exec (step sampleSetting) Service.init pre = some s' →
          ∀ request ∈ s'.shared.sent, Confined sampleUrls sampleSetting request := by
  have hsome : (exec (step sampleSetting) Service.init
      (tokenRun "https://9.9.9.9/a2a/agent")).isSome = true := by decide
  have halong : Along (step sampleSetting)
      (fun s a => keepsToPeer sampleUrls sampleSetting s a = true) Service.init
        (tokenRun "https://9.9.9.9/a2a/agent") := by decide
  exact ⟨hsome, (confined_iff_along (Option.some_get hsome).symm).mpr halong⟩

/-- The list of the peer sends its token to another host. -/
theorem sends_token_elsewhere :
    ¬ ∀ (urls : UrlReader) (setting : Setting) (labels : List Label) (s : Service),
      exec (step setting) Service.init labels = some s →
        ∀ request ∈ s.shared.sent, Confined urls setting request := by
  intro h
  have hsent : ((exec (step sampleSetting) Service.init (tokenRun "https://8.8.8.8")).map fun s =>
      s.shared.sent.any fun request => hasToken sampleSetting request.credentialsOf &&
        !goesTo sampleUrls request.url request.credentialsOf) = some true := by decide
  obtain ⟨s, hs, hany⟩ := Option.map_eq_some_iff.mp hsent
  obtain ⟨request, hrequest, hstray⟩ := List.any_eq_true.mp hany
  rw [Bool.and_eq_true] at hstray
  rw [h sampleUrls sampleSetting _ s hs request hrequest hstray.1] at hstray
  exact absurd hstray.2 (by decide)

end Discovery

end OpenLangGraph

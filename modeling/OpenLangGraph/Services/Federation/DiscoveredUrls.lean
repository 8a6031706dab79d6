import OpenLangGraph.Services.Federation.Discovery

/-!
# The URLs of discovered agents

A discovered agent shows two URLs: `url`, the one in its card, and `agent_card_url`, the link that
its peer has listed, or else one made of the URL in the card.

## What is checked

The endpoint URL in the list is checked, twice, before the card is fetched from it. Neither of the
two URLs that are shown is that one, and no check sees them.

## Main definitions

* `Checked` — both URLs of an agent pass
* `showsCheckedUrls` — so do those of the card and of the entry that a step comes to

## Main results

* `checked_iff_along` — in which runs every discovered agent shows checked URLs only
* `shows_internal_url` — a run in which one does not
-/

namespace OpenLangGraph

namespace Discovery

open Transition PyString

/-- Both URLs of an agent pass `validate_url_for_ssrf`. -/
def Checked (setting : Setting) (agent : DiscoveredAgent) : Prop :=
  setting.passes agent.url = true ∧ setting.passes agent.agentCardUrl = true

/-- If a step makes an agent of a card, then the URL of the card passes, and so does the link in
the entry, or else the one made of the URL of the card. -/
def showsCheckedUrls (setting : Setting) (s : Service) : Label → Bool
  | .discover _ _ _ => true
  | .task i now reply =>
    s.tasks[i]?.all fun task =>
      (task.resolved setting s.shared now reply).all fun e =>
        !task.wants setting e.2 ||
          setting.passes e.2.url && setting.passes (agentCardUrl e.1 e.2)

/-- The agents that are returned: those of the tasks that are done. -/
def Service.returned (s : Service) : List DiscoveredAgent :=
  s.tasks.flatMap fun task =>
    match task.stage with
    | .done => task.discovered
    | _ => []

variable {setting : Setting} {s s' : Service} {label : Label} {labels : List Label}

theorem mem_discovered_of_mem_returned {agent : DiscoveredAgent} (h : agent ∈ s.returned) :
    agent ∈ s.discovered := by
  obtain ⟨task, htask, hagent⟩ := List.mem_flatMap.mp h
  refine List.mem_flatMap.mpr ⟨task, htask, ?_⟩
  split at hagent
  · exact hagent
  · exact absurd hagent List.not_mem_nil

/-- The agent of a step is checked if what it is made of is. -/
theorem checked_finds_iff :
    (∀ agent ∈ s.finds setting label, Checked setting agent) ↔
      showsCheckedUrls setting s label = true := by
  cases label with
  | discover peers peerIds filters => simp [Service.finds, showsCheckedUrls]
  | task i now reply =>
    rw [forall_finds_iff, showsCheckedUrls, Option.all_eq_true]
    refine forall₂_congr fun task _ => ?_
    rw [Option.all_eq_true]
    refine forall₂_congr fun e _ => ?_
    cases task.wants setting e.2 <;> simp [Checked, discoveredAgent]

/-- **Discovered URLs.** In a run of the service every discovered agent shows checked URLs at every
time exactly if every card that an agent is made of, and every link beside it, passes the check. -/
theorem checked_iff_along (h : exec (step setting) Service.init labels = some s) :
    (∀ pre s', pre <+: labels → exec (step setting) Service.init pre = some s' →
      ∀ agent ∈ s'.discovered, Checked setting agent) ↔
        Along (step setting) (fun s a => showsCheckedUrls setting s a = true) Service.init
          labels := by
  rw [forall_discovered_iff_along h]
  exact ⟨Along.mono fun s a => checked_finds_iff.mp, Along.mono fun s a => checked_finds_iff.mpr⟩

/-! ### A peer -/

def samplePeer : PeerConfig :=
  ⟨['p'], "https://9.9.9.9".toList, some "bearer".toList, some ['t'], by decide⟩

/-- The list of the peer, with one agent. -/
def sampleList : Json :=
  .obj [("agents", .arr [.obj [("graph_id", .str "g"), ("endpoint_url", .str "https://8.8.8.8")]])]

/-- The card of the agent, with a URL of its own. -/
def sampleCard (url : Str) : AgentCard := ⟨['a'], [], url, [], [], []⟩

/-- A discovery, in which the peer lists one agent. -/
def sampleRun (url : Str) : List Label :=
  .discover [samplePeer] none none ::
    [.go, .go, .payload sampleList, .go, .go, .card (sampleCard url), .go].map (.task 0 ⟨0, 0⟩)

theorem checked_iff_along_public :
    (exec (step sampleSetting) Service.init (sampleRun "https://8.8.8.8".toList)).isSome = true ∧
      ∀ pre s', pre <+: sampleRun "https://8.8.8.8".toList →
        exec (step sampleSetting) Service.init pre = some s' →
          ∀ agent ∈ s'.discovered, Checked sampleSetting agent := by
  have hsome : (exec (step sampleSetting) Service.init
      (sampleRun "https://8.8.8.8".toList)).isSome = true := by decide
  have halong : Along (step sampleSetting)
      (fun s a => showsCheckedUrls sampleSetting s a = true) Service.init
        (sampleRun "https://8.8.8.8".toList) := by decide
  exact ⟨hsome, (checked_iff_along (Option.some_get hsome).symm).mpr halong⟩

/-- The card of a returned agent has the URL of an internal address. -/
theorem shows_internal_url :
    ¬ ∀ (setting : Setting) (labels : List Label) (s : Service),
      exec (step setting) Service.init labels = some s →
        ∀ agent ∈ s.returned, Checked setting agent := by
  intro h
  have hreturned : ((exec (step sampleSetting) Service.init
      (sampleRun "http://10.0.0.1".toList)).map fun s =>
        s.returned.any fun agent => !sampleSetting.passes agent.url) = some true := by decide
  obtain ⟨s, hs, hany⟩ := Option.map_eq_some_iff.mp hreturned
  obtain ⟨agent, hagent, hpasses⟩ := List.any_eq_true.mp hany
  rw [(h sampleSetting _ s hs agent hagent).1] at hpasses
  exact absurd hpasses (by decide)

end Discovery

end OpenLangGraph

import Mathlib.Algebra.GroupWithZero.Nat
import OpenLangGraph.Services.Federation.DiscoveredUrls

/-!
# The text of discovered agents

What a peer and the cards say is not to be trusted, and `_discover_peer_agents` sends it through
`sanitize_text` on its way into a `DiscoveredAgent`: the text is cut off after 10000 characters,
loses its tags, has its entities escaped and is stripped.

## Two ways past it

The order of these steps makes the limit one on the text that came in: an escaped character is four
to six characters long, and nothing is cut off any more. And the capabilities of a card do not go
through `sanitize_text` at all; they are dumped as they are, with whatever text their extensions
have in them.

## Main definitions

* `Inert` — a text with no character of HTML and of at most 10000 characters
* `DiscoveredAgent.texts` — the texts of an agent, those inside its capabilities among them
* `Fits` — a text that is still within the limit when it has been escaped
* `showsInertText` — the step makes an agent of inert text only

## Main results

* `length_sanitizeText`, `inert_sanitizeText_iff` — how long a sanitized text is
* `inert_iff_along` — in which runs every discovered agent is inert
* `shows_a_tag` — a run in which one is not
-/

namespace OpenLangGraph

namespace Discovery

open Transition PyString

/-- None of `<`, `>` and the two quotes, and at most 10000 characters. -/
def Inert (text : Str) : Prop :=
  (∀ c ∈ text, c ≠ '<' ∧ c ≠ '>' ∧ c.toNat ≠ 0x22 ∧ c.toNat ≠ 0x27) ∧ text.length ≤ 10000

instance (text : Str) : Decidable (Inert text) :=
  @instDecidableAnd _ _ (List.decidableBAll _ text) (Nat.decLe _ _)

/-! ### The texts of an agent -/

mutual

/-- The strings of a document, and the keys of its objects, at any depth. -/
def jsonTexts : Json → List Str
  | .null | .bool _ | .num _ => []
  | .str s => [s.toList]
  | .arr items => jsonTextsItems items
  | .obj entries => jsonTextsEntries entries

def jsonTextsItems : List Json → List Str
  | [] => []
  | item :: items => jsonTexts item ++ jsonTextsItems items

def jsonTextsEntries : List (String × Json) → List Str
  | [] => []
  | (key, value) :: entries => key.toList :: jsonTexts value ++ jsonTextsEntries entries

end

def AgentSkill.texts (skill : AgentSkill) : List Str :=
  skill.id :: skill.name :: skill.description :: skill.tags

/-- The texts in the capabilities that are set. -/
def capabilityTexts (capabilities : List (Str × Json)) : List Str :=
  (capabilities.filter fun capability => !isNull capability.2).flatMap fun capability =>
    capability.1 :: jsonTexts capability.2

/-- The texts of an agent other than its URLs. -/
def DiscoveredAgent.texts (agent : DiscoveredAgent) : List Str :=
  agent.graphId :: agent.name :: agent.description :: agent.version ::
    (agent.skills.flatMap AgentSkill.texts ++ agent.tags ++ capabilityTexts agent.capabilities)

/-- The texts that are sanitized, as they come in. -/
def receivedTexts (lower : Str → Str) (entry : ListedAgent) (card : AgentCard) : List Str :=
  entry.graphId :: card.name :: card.description :: card.version ::
    (card.skills.flatMap AgentSkill.texts ++ extractTagsFromSkills lower card)

/-- Each text of an agent is a sanitized one or belongs to the capabilities. -/
theorem texts_discoveredAgent (setting : Setting) (peer : PeerConfig) (entry : ListedAgent)
    (card : AgentCard) (now : Clocks) :
    (discoveredAgent setting peer entry card now).texts =
      (receivedTexts setting.env.unicode.lower entry card).map
          (sanitizeText setting.env.unicode.isSpace) ++ capabilityTexts card.capabilities := by
  have hskills : ∀ skills : List AgentSkill,
      (skills.map fun skill => (⟨sanitizeText setting.env.unicode.isSpace skill.id,
          sanitizeText setting.env.unicode.isSpace skill.name,
          sanitizeText setting.env.unicode.isSpace skill.description,
          skill.tags.map (sanitizeText setting.env.unicode.isSpace)⟩ : AgentSkill)).flatMap
            AgentSkill.texts =
        (skills.flatMap AgentSkill.texts).map (sanitizeText setting.env.unicode.isSpace) := by
    intro skills
    induction skills with
    | nil => rfl
    | cons skill skills ih => simp [AgentSkill.texts, ih]
  have hcapabilities : capabilityTexts (card.capabilities.filter fun c => !isNull c.2) =
      capabilityTexts card.capabilities := by
    simp [capabilityTexts]
  simp only [DiscoveredAgent.texts, receivedTexts, discoveredAgent, hskills, hcapabilities,
    List.map_cons, List.map_append, List.cons_append, List.append_assoc]

/-! ### Sanitized text -/

/-- How many characters `html.escape` makes of one. -/
def escapedWidth (c : Char) : ℕ :=
  if c = '&' then 5
  else if c = '<' ∨ c = '>' then 4
  else if c.toNat = 0x22 ∨ c.toNat = 0x27 then 6
  else 1

/-- The first 10000 characters of the text, without tags and without white space at the ends, are
still within the limit when they have been escaped. -/
def Fits (isSpace : Char → Bool) (text : Str) : Prop :=
  ((strip isSpace (stripTags 0 (text.take 10000))).map escapedWidth).sum ≤ 10000

instance (isSpace : Char → Bool) (text : Str) : Decidable (Fits isSpace text) :=
  inferInstanceAs (Decidable (_ ≤ _))

theorem length_escapeHtml (s : Str) : (escapeHtml s).length = (s.map escapedWidth).sum := by
  rw [escapeHtml, List.length_flatMap]
  congr 1
  refine List.map_congr_left fun c _ => ?_
  rw [escapedWidth]
  by_cases hamp : c = '&'
  · simp [hamp]
  by_cases hlt : c = '<'
  · simp [hlt]
  by_cases hgt : c = '>'
  · simp [hgt]
  by_cases hquote : c.toNat = 0x22
  · simp [hamp, hlt, hgt, hquote]
  by_cases happos : c.toNat = 0x27
  · simp [hamp, hlt, hgt, happos]
  · simp [hamp, hlt, hgt, hquote, happos]

/-- Escaping leaves no character of HTML. -/
theorem mem_escapeHtml {s : Str} {c : Char} (h : c ∈ escapeHtml s) :
    c ≠ '<' ∧ c ≠ '>' ∧ c.toNat ≠ 0x22 ∧ c.toNat ≠ 0x27 := by
  obtain ⟨d, -, hc⟩ := List.mem_flatMap.mp h
  have hentity : ∀ text ∈ ["&amp;", "&lt;", "&gt;", "&quot;", "&#x27;"].map String.toList,
      ∀ c ∈ text, c ≠ '<' ∧ c ≠ '>' ∧ c.toNat ≠ 0x22 ∧ c.toNat ≠ 0x27 := by simp
  split at hc
  · exact hentity _ (by simp) c hc
  split at hc
  · exact hentity _ (by simp) c hc
  split at hc
  · exact hentity _ (by simp) c hc
  split at hc
  · exact hentity _ (by simp) c hc
  split at hc
  · exact hentity _ (by simp) c hc
  obtain rfl := List.mem_singleton.mp hc
  exact ⟨‹_›, ‹_›, ‹_›, ‹_›⟩

theorem escapeHtml_eq_flatMap (s : Str) : escapeHtml s = s.flatMap fun c => escapeHtml [c] := by
  simp only [escapeHtml, List.flatMap_cons, List.flatMap_nil, List.append_nil]

/-- A character is kept, or it is none of white space and becomes an entity. -/
theorem escapeHtml_singleton (c : Char) : escapeHtml [c] = [c] ∨
    c.toNat < 128 ∧ isAsciiSpace c = false ∧ ∃ t, escapeHtml [c] = '&' :: t ++ [';'] := by
  simp only [escapeHtml, List.flatMap_cons, List.flatMap_nil, List.append_nil]
  split
  · rename_i h
    subst h
    exact .inr ⟨by decide, by decide, "amp".toList, rfl⟩
  split
  · rename_i h
    subst h
    exact .inr ⟨by decide, by decide, "lt".toList, rfl⟩
  split
  · rename_i h
    subst h
    exact .inr ⟨by decide, by decide, "gt".toList, rfl⟩
  split
  · rename_i h
    obtain rfl : c = Char.ofNat 0x22 := Char.toNat_inj.mp h
    exact .inr ⟨by decide, by decide, "quot".toList, rfl⟩
  split
  · rename_i h
    obtain rfl : c = Char.ofNat 0x27 := Char.toNat_inj.mp h
    exact .inr ⟨by decide, by decide, "#x27".toList, rfl⟩
  · exact .inl rfl

/-- Escaping and stripping commute, as the first and the last character of an entity are no white
space. -/
theorem strip_escapeHtml {isSpace : Char → Bool}
    (hspace : ∀ c : Char, c.toNat < 128 → isSpace c = isAsciiSpace c) (s : Str) :
    strip isSpace (escapeHtml s) = escapeHtml (strip isSpace s) := by
  have hamp : isSpace '&' = false := hspace '&' (by decide)
  have hsemicolon : isSpace ';' = false := hspace ';' (by decide)
  rw [escapeHtml_eq_flatMap, escapeHtml_eq_flatMap (strip isSpace s)]
  refine strip_flatMap ?_ ?_ ?_ s
  · intro c hc
    rcases escapeHtml_singleton c with hkept | ⟨hascii, hnot, -⟩
    · exact hkept
    · rw [hspace c hascii, hnot] at hc
      exact absurd hc Bool.false_ne_true
  · intro c hc
    rcases escapeHtml_singleton c with hkept | ⟨-, -, t, ht⟩
    · exact ⟨c, [], hkept, hc⟩
    · exact ⟨'&', t ++ [';'], ht, hamp⟩
  · intro c hc
    rcases escapeHtml_singleton c with hkept | ⟨-, -, t, ht⟩
    · exact ⟨[], c, hkept, hc⟩
    · exact ⟨'&' :: t, ';', ht, hsemicolon⟩

/-- **How long sanitized text is.** The limit is on what comes in. -/
theorem length_sanitizeText {isSpace : Char → Bool}
    (hspace : ∀ c : Char, c.toNat < 128 → isSpace c = isAsciiSpace c) (text : Str) :
    (sanitizeText isSpace text).length =
      ((strip isSpace (stripTags 0 (text.take 10000))).map escapedWidth).sum := by
  rw [sanitizeText, strip_escapeHtml hspace, length_escapeHtml]

theorem inert_sanitizeText_iff {isSpace : Char → Bool}
    (hspace : ∀ c : Char, c.toNat < 128 → isSpace c = isAsciiSpace c) (text : Str) :
    Inert (sanitizeText isSpace text) ↔ Fits isSpace text := by
  rw [Inert, Fits, length_sanitizeText hspace]
  exact and_iff_right fun c hc => mem_escapeHtml (mem_of_mem_strip hc)

/-! ### Runs -/

/-- What comes in with an entry and its card makes inert text only. -/
def MakesInertText (setting : Setting) (entry : ListedAgent) (card : AgentCard) : Prop :=
  (∀ text ∈ receivedTexts setting.env.unicode.lower entry card,
    Fits setting.env.unicode.isSpace text) ∧
      ∀ text ∈ capabilityTexts card.capabilities, Inert text

instance (setting : Setting) (entry : ListedAgent) (card : AgentCard) :
    Decidable (MakesInertText setting entry card) :=
  inferInstanceAs (Decidable (_ ∧ _))

/-- If a step makes an agent, then of what makes inert text only. -/
def showsInertText (setting : Setting) (s : Service) : Label → Bool
  | .discover _ _ _ => true
  | .task i now reply =>
    s.tasks[i]?.all fun task =>
      (task.resolved setting s.shared now reply).all fun e =>
        !task.wants setting e.2 || decide (MakesInertText setting e.1 e.2)

variable {setting : Setting} {s : Service} {label : Label} {labels : List Label}

theorem inert_discoveredAgent_iff
    (hspace : ∀ c : Char, c.toNat < 128 → setting.env.unicode.isSpace c = isAsciiSpace c)
    (peer : PeerConfig) (entry : ListedAgent) (card : AgentCard) (now : Clocks) :
    (∀ text ∈ (discoveredAgent setting peer entry card now).texts, Inert text) ↔
      MakesInertText setting entry card := by
  rw [texts_discoveredAgent, List.forall_mem_append, List.forall_mem_map, MakesInertText]
  exact and_congr_left fun _ => forall₂_congr fun text _ => inert_sanitizeText_iff hspace text

/-- The agent of a step is inert if what it is made of makes it so. -/
theorem inert_finds_iff
    (hspace : ∀ c : Char, c.toNat < 128 → setting.env.unicode.isSpace c = isAsciiSpace c) :
    (∀ agent ∈ s.finds setting label, ∀ text ∈ agent.texts, Inert text) ↔
      showsInertText setting s label = true := by
  cases label with
  | discover peers peerIds filters => simp [Service.finds, showsInertText]
  | task i now reply =>
    rw [forall_finds_iff, showsInertText, Option.all_eq_true]
    refine forall₂_congr fun task _ => ?_
    rw [Option.all_eq_true]
    refine forall₂_congr fun e _ => ?_
    rw [inert_discoveredAgent_iff hspace task.peer e.1 e.2 now]
    cases task.wants setting e.2 <;> simp

/-- **Discovered text.** In a run of the service every discovered agent is inert at every time
exactly if whatever an agent is made of makes inert text: what is escaped stays within the limit,
and the capabilities of the card were inert to begin with. -/
theorem inert_iff_along
    (hspace : ∀ c : Char, c.toNat < 128 → setting.env.unicode.isSpace c = isAsciiSpace c)
    (h : exec (step setting) Service.init labels = some s) :
    (∀ pre s', pre <+: labels → exec (step setting) Service.init pre = some s' →
      ∀ agent ∈ s'.discovered, ∀ text ∈ agent.texts, Inert text) ↔
        Along (step setting) (fun s a => showsInertText setting s a = true) Service.init
          labels := by
  rw [forall_discovered_iff_along h]
  exact ⟨Along.mono fun s a => (inert_finds_iff hspace).mp,
    Along.mono fun s a => (inert_finds_iff hspace).mpr⟩

/-! ### A peer -/

/-- A card with an extension, the one capability of its agent. -/
def extendedCard (uri : String) : AgentCard :=
  ⟨"<b>a</b>".toList, [], "https://8.8.8.8".toList, [], [],
    [("extensions".toList, .arr [.obj [("uri", .str uri)]])]⟩

/-- A discovery, in which the card of the one agent has an extension. -/
def extendedRun (uri : String) : List Label :=
  .discover [samplePeer] none none ::
    [.go, .go, .payload sampleList, .go, .go, .card (extendedCard uri), .go].map (.task 0 ⟨0, 0⟩)

theorem inert_iff_along_extended :
    (exec (step sampleSetting) Service.init (extendedRun "urn:x")).isSome = true ∧
      ∀ pre s', pre <+: extendedRun "urn:x" →
        exec (step sampleSetting) Service.init pre = some s' →
          ∀ agent ∈ s'.discovered, ∀ text ∈ agent.texts, Inert text := by
  have hsome : (exec (step sampleSetting) Service.init (extendedRun "urn:x")).isSome = true := by
    decide
  have halong : Along (step sampleSetting)
      (fun s a => showsInertText sampleSetting s a = true) Service.init (extendedRun "urn:x") := by
    decide
  exact ⟨hsome,
    (inert_iff_along (fun _ _ => rfl) (Option.some_get hsome).symm).mpr halong⟩

/-- A returned agent has a tag in its capabilities. -/
theorem shows_a_tag :
    ¬ ∀ (setting : Setting) (labels : List Label) (s : Service),
      (∀ c : Char, c.toNat < 128 → setting.env.unicode.isSpace c = isAsciiSpace c) →
        exec (step setting) Service.init labels = some s →
          ∀ agent ∈ s.returned, ∀ text ∈ agent.texts, Inert text := by
  intro h
  have hreturned : ((exec (step sampleSetting) Service.init (extendedRun "<script>")).map fun s =>
      s.returned.any fun agent => agent.texts.contains "<script>".toList) = some true := by decide
  obtain ⟨s, hs, hany⟩ := Option.map_eq_some_iff.mp hreturned
  obtain ⟨agent, hagent, htext⟩ := List.any_eq_true.mp hany
  have hinert := h sampleSetting _ s (fun _ _ => rfl) hs agent hagent _
    (List.contains_iff_mem.mp htext)
  exact absurd hinert (by decide)

end Discovery

end OpenLangGraph

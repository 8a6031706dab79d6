import OpenLangGraph.Services.Federation.ContextPropagation

/-!
# The agents a call has visited

A call travels from agent to agent: at every hop a child context is created for the next agent, put
into headers and read from them at the other side. The agent chain that is read is the list of the
agents visited, from which `is_cyclic` tells whether a call comes back.

## The size of the header

The chain travels in the `tracestate` header, which is ignored as a whole if it has more than
`MAX_TRACESTATE_SIZE` characters. So the chain is the list of the agents visited since the last hop
whose header was too long, `visited`, and of these the first `MAX_AGENT_CHAIN_LENGTH`.

## Main definitions

* `IsName` — the names of agents
* `Hop`, `hop`, `travel` — one hop, and a path
* `Hop.fits` — the tracestate header of a hop is read
* `visited` — the agents since the last hop whose header was not

## Main results

* `agentChain_hop` — the chain after one hop
* `agentChain_travel` — the chain after a path
* `cycle_detection` — what `is_cyclic` knows of a path
-/

namespace OpenLangGraph

namespace ContextPropagation

open PyString

/-- The names of agents: not empty, without commas and semicolons, and without white space at the
edges. -/
def IsName (U : UnicodeDb) (name : Str) : Prop :=
  name ≠ [] ∧ ',' ∉ name ∧ ';' ∉ name ∧ strip U.isSpace name = name

instance (U : UnicodeDb) (name : Str) : Decidable (IsName U name) :=
  inferInstanceAs (Decidable (_ ∧ _))

/-- A hop to an agent: what is put into the baggage before, the span of the child context, and what
the receiver draws. -/
structure Hop (ν : Type) where
  agent : Str
  baggage : List (Str × ν)
  spanId : Str
  drawn : Drawn

section

variable {ν : Type} (U : UnicodeTables) (str : ν → Str) (ofStr : Str → ν)

/-- The context that is sent. -/
def Hop.child (h : Hop ν) (ctx : DistributedExecutionContext ν) : DistributedExecutionContext ν :=
  (h.baggage.foldl (fun ctx item => ctx.addBaggage item.1 item.2) ctx).createChildContext h.agent
    h.spanId

/-- The context that is read by the receiver. -/
def hop (ctx : DistributedExecutionContext ν) (h : Hop ν) : DistributedExecutionContext ν :=
  fromHeaders U.toUnicodeDb ofStr h.drawn ((h.child ctx).toHeaders str)

/-- The context at the end of a path. -/
def travel (ctx : DistributedExecutionContext ν) (hops : List (Hop ν)) :
    DistributedExecutionContext ν :=
  hops.foldl (hop U str ofStr) ctx

/-- The tracestate header is short enough to be read. -/
def Hop.fits (ctx : DistributedExecutionContext ν) (h : Hop ν) : Bool :=
  (h.child ctx).tracestate.length ≤ maxTracestateSize

/-- The agents visited since the last hop whose tracestate header was too long, if those before the
path are `seen`. -/
def visited (ctx : DistributedExecutionContext ν) (seen : List Str) : List (Hop ν) → List Str
  | [] => seen
  | h :: hops =>
    visited (hop U str ofStr ctx h) (if h.fits ctx then seen ++ [h.agent] else []) hops

/-- Every tracestate header of a path is short enough. -/
def allFit (ctx : DistributedExecutionContext ν) : List (Hop ν) → Bool
  | [] => true
  | h :: hops => h.fits ctx && allFit (hop U str ofStr ctx h) hops

end

/-! ### One item of the header -/

section

variable {U : UnicodeTables}

theorem isSpace_letter {c : Char} (hc : c ∈ ['l', 'o', 'c']) : U.isSpace c = false := by
  have hascii : (['l', 'o', 'c'].all fun c => c.toNat < 128 && !isAsciiSpace c) = true := by decide
  have hc' := List.all_eq_true.mp hascii c hc
  rw [Bool.and_eq_true, decide_eq_true_eq, Bool.not_eq_true'] at hc'
  rw [U.isSpace_ascii c hc'.1, hc'.2]

/-- The chain as an item of the header is not changed by stripping it. -/
theorem strip_agentChain {chain : List Str} (hchain : chain ≠ [])
    (hnames : ∀ a ∈ chain, IsName U.toUnicodeDb a) :
    strip U.isSpace (agentChainPrefix ++ List.intercalate [';'] chain) =
      agentChainPrefix ++ List.intercalate [';'] chain := by
  obtain ⟨s, a, ha, heq⟩ := exists_append_of_intercalate [';'] hchain
  obtain ⟨hne, -, -, hstrip⟩ := hnames a ha
  have hprefix : agentChainPrefix = 'l' :: "anggraph=agent_chain:".toList := rfl
  rw [heq, hprefix, List.cons_append, strip_cons (isSpace_letter (by simp)), ← List.append_assoc,
    rstrip_append _ hne (rstrip_of_strip hstrip)]

/-- The chain is read back, up to its greatest length. -/
theorem read_agentChain (t : Tracestate) {chain : List Str} (hchain : chain ≠ [])
    (hnames : ∀ a ∈ chain, IsName U.toUnicodeDb a) :
    (t.read U.toUnicodeDb (agentChainPrefix ++ List.intercalate [';'] chain)).agentChain =
      chain.take maxAgentChainLength := by
  have hprefix : agentChainPrefix.isPrefixOf
      (agentChainPrefix ++ List.intercalate [';'] chain) = true :=
    List.isPrefixOf_iff_prefix.mpr (List.prefix_append _ _)
  have hraw : ((chain.map (strip U.isSpace)).filter (· ≠ [])) = chain := by
    have hmap : chain.map (strip U.isSpace) = chain :=
      (List.map_congr_left fun a ha => (hnames a ha).2.2.2).trans (List.map_id _)
    rw [hmap, List.filter_eq_self]
    exact fun a ha => decide_eq_true (hnames a ha).1
  rw [Tracestate.read, if_pos hprefix]
  dsimp only
  rw [List.drop_left, List.splitOn_intercalate ';' (fun a ha => (hnames a ha).2.2.1) hchain, hraw]

/-- Another item leaves the chain alone. -/
theorem agentChain_read_of_ne (t : Tracestate) {item : Str} (h : item.head? ≠ some 'l') :
    (t.read U.toUnicodeDb item).agentChain = t.agentChain := by
  have hprefix : ¬ agentChainPrefix.isPrefixOf item = true := by
    intro hprefix
    obtain ⟨s, rfl⟩ := List.isPrefixOf_iff_prefix.mp hprefix
    exact h rfl
  rw [Tracestate.read, if_neg hprefix]
  split
  · rfl
  · split <;> rfl

/-- Nothing is read that is not in the item. -/
theorem comma_notMem_read {t : Tracestate} {item : Str} (hitem : ',' ∉ item)
    (horigin : ',' ∉ t.originAgent) (hcurrent : ',' ∉ t.currentAgent) :
    ',' ∉ (t.read U.toUnicodeDb item).originAgent ∧
      ',' ∉ (t.read U.toUnicodeDb item).currentAgent := by
  have hpart : ∀ n m, ',' ∉ (item.drop n).take m :=
    fun n m h => hitem (List.mem_of_mem_drop (List.mem_of_mem_take h))
  rw [Tracestate.read]
  split
  · exact ⟨horigin, hcurrent⟩
  · split
    · exact ⟨hpart _ _, hcurrent⟩
    · split
      · exact ⟨horigin, hpart _ _⟩
      · exact ⟨horigin, hcurrent⟩

end

/-! ### One hop -/

/-- The chain of a context can be sent: it consists of names, and the agents beside it do not break
the header apart. -/
structure Sound {ν : Type} (U : UnicodeDb) (ctx : DistributedExecutionContext ν) : Prop where
  names : ∀ a ∈ ctx.agentChain, IsName U a
  origin : ',' ∉ ctx.originAgent
  current : ',' ∉ ctx.currentAgent

section

variable {ν : Type} {U : UnicodeTables} {ctx : DistributedExecutionContext ν}

/-- The commas of the header are those between its items. -/
theorem Sound.comma_notMem (hs : Sound U.toUnicodeDb ctx) {part : Str}
    (hpart : part ∈ ctx.tracestateParts) : ',' ∉ part := by
  have hchain : ',' ∉ agentChainPrefix ++ List.intercalate [';'] ctx.agentChain := by
    intro h
    rcases List.mem_append.mp h with h | h
    · exact absurd h (by decide)
    · rcases mem_intercalate h with h | ⟨a, ha, hcomma⟩
      · exact absurd h (by decide)
      · exact (hs.names a ha).2.1 hcomma
  have hprefix : ∀ {p agent : Str}, ',' ∉ p → ',' ∉ agent → ',' ∉ p ++ agent :=
    fun hp ha h => (List.mem_append.mp h).elim hp ha
  rw [DistributedExecutionContext.tracestateParts, List.mem_append, List.mem_append] at hpart
  rcases hpart with (hpart | hpart) | hpart
  · split at hpart
    · cases hpart
    · exact List.mem_singleton.mp hpart ▸ hchain
  · split at hpart
    · cases hpart
    · exact List.mem_singleton.mp hpart ▸ hprefix (by decide) hs.origin
  · split at hpart
    · cases hpart
    · exact List.mem_singleton.mp hpart ▸ hprefix (by decide) hs.current

/-- A header that is not too long is read item by item. -/
theorem Sound.parseTracestate (hs : Sound U.toUnicodeDb ctx) (hchain : ctx.agentChain ≠ []) :
    parseTracestate U.toUnicodeDb ctx.tracestate =
      if ctx.tracestate.length ≤ maxTracestateSize then
        (ctx.tracestateParts.map (strip U.isSpace)).foldl (Tracestate.read U.toUnicodeDb)
          ⟨[], [], []⟩
      else ⟨[], [], []⟩ := by
  have hparts : ctx.tracestateParts ≠ [] := by
    simp [DistributedExecutionContext.tracestateParts, hchain]
  have hsplit : ctx.tracestate.splitOn ',' = ctx.tracestateParts :=
    List.splitOn_intercalate ',' (fun part hpart => hs.comma_notMem hpart) hparts
  have hne : ctx.tracestate ≠ [] := by
    intro hempty
    rw [hempty, List.splitOn_nil, DistributedExecutionContext.tracestateParts,
      if_neg hchain] at hsplit
    cases hsplit
  rw [ContextPropagation.parseTracestate, hsplit]
  simp only [ne_eq, hne, not_false_eq_true, true_and]

theorem agentChain_foldl_read (items : List Str) (hitems : ∀ item ∈ items, item.head? ≠ some 'l') :
    ∀ t : Tracestate,
      (items.foldl (Tracestate.read U.toUnicodeDb) t).agentChain = t.agentChain := by
  induction items with
  | nil => intro t; rfl
  | cons item items ih =>
    intro t
    rw [List.foldl_cons, ih (fun i hi => hitems i (List.mem_cons_of_mem _ hi)),
      agentChain_read_of_ne t (hitems item List.mem_cons_self)]

theorem comma_notMem_foldl_read (items : List Str) (hitems : ∀ item ∈ items, ',' ∉ item) :
    ∀ t : Tracestate, ',' ∉ t.originAgent → ',' ∉ t.currentAgent →
      ',' ∉ (items.foldl (Tracestate.read U.toUnicodeDb) t).originAgent ∧
        ',' ∉ (items.foldl (Tracestate.read U.toUnicodeDb) t).currentAgent := by
  induction items with
  | nil => exact fun t horigin hcurrent => ⟨horigin, hcurrent⟩
  | cons item items ih =>
    intro t horigin hcurrent
    obtain ⟨horigin, hcurrent⟩ :=
      comma_notMem_read (U := U) (hitems item List.mem_cons_self) horigin hcurrent
    exact ih (fun i hi => hitems i (List.mem_cons_of_mem _ hi)) _ horigin hcurrent

/-- The chain is read from a header that is not too long. -/
theorem Sound.agentChain_parse (hs : Sound U.toUnicodeDb ctx) (hchain : ctx.agentChain ≠ []) :
    (ContextPropagation.parseTracestate U.toUnicodeDb ctx.tracestate).agentChain =
      if ctx.tracestate.length ≤ maxTracestateSize then ctx.agentChain.take maxAgentChainLength
      else [] := by
  rw [hs.parseTracestate hchain]
  split
  · rw [DistributedExecutionContext.tracestateParts, if_neg hchain, List.append_assoc,
      List.singleton_append, List.map_cons, List.foldl_cons, strip_agentChain hchain hs.names,
      agentChain_foldl_read, read_agentChain _ hchain hs.names]
    intro item hitem
    obtain ⟨part, hpart, rfl⟩ := List.mem_map.mp hitem
    have horigin : ∀ s, (strip U.isSpace (originPrefix ++ s)).head? ≠ some 'l' := by
      intro s
      rw [show originPrefix ++ s = 'o' :: ("rigin=".toList ++ s) from rfl,
        strip_cons (isSpace_letter (by simp))]
      exact fun h => absurd (Option.some.inj h) (by decide)
    have hcurrent : ∀ s, (strip U.isSpace (currentPrefix ++ s)).head? ≠ some 'l' := by
      intro s
      rw [show currentPrefix ++ s = 'c' :: ("urrent=".toList ++ s) from rfl,
        strip_cons (isSpace_letter (by simp))]
      exact fun h => absurd (Option.some.inj h) (by decide)
    rcases List.mem_append.mp hpart with hpart | hpart
    · split at hpart
      · cases hpart
      · exact List.mem_singleton.mp hpart ▸ horigin _
    · split at hpart
      · cases hpart
      · exact List.mem_singleton.mp hpart ▸ hcurrent _
  · rfl

/-- What is received of the chain of a context. -/
theorem Sound.agentChain_received (hs : Sound U.toUnicodeDb ctx) (hchain : ctx.agentChain ≠ [])
    (str : ν → Str) (ofStr : Str → ν) (drawn : Drawn) :
    (fromHeaders U.toUnicodeDb ofStr drawn (ctx.toHeaders str)).agentChain =
      if ctx.tracestate.length ≤ maxTracestateSize then ctx.agentChain.take maxAgentChainLength
      else [] := by
  rw [← hs.agentChain_parse hchain, ← header_tracestate U.toUnicodeDb str]
  rfl

/-- What is read of a sound context can be sent on. -/
theorem Sound.received (hs : Sound U.toUnicodeDb ctx) (hchain : ctx.agentChain ≠ [])
    (str : ν → Str) (ofStr : Str → ν) (drawn : Drawn) :
    Sound U.toUnicodeDb (fromHeaders U.toUnicodeDb ofStr drawn (ctx.toHeaders str)) := by
  have hread : ',' ∉ (ContextPropagation.parseTracestate U.toUnicodeDb ctx.tracestate).originAgent ∧
      ',' ∉ (ContextPropagation.parseTracestate U.toUnicodeDb ctx.tracestate).currentAgent := by
    rw [hs.parseTracestate hchain]
    split
    · refine comma_notMem_foldl_read _ (fun item hitem hcomma => ?_) _ List.not_mem_nil
        List.not_mem_nil
      obtain ⟨part, hpart, rfl⟩ := List.mem_map.mp hitem
      exact hs.comma_notMem hpart (mem_of_mem_strip hcomma)
    · exact ⟨List.not_mem_nil, List.not_mem_nil⟩
  rw [← header_tracestate U.toUnicodeDb str] at hread
  refine ⟨fun a ha => ?_, hread.1, hread.2⟩
  rw [hs.agentChain_received hchain] at ha
  split at ha
  · exact hs.names a (List.mem_of_mem_take ha)
  · cases ha

/-- The baggage is all that is changed before a call. -/
theorem Hop.child_eq (ctx : DistributedExecutionContext ν) (h : Hop ν) : ∃ baggage,
    h.child ctx = ({ ctx with baggage } : DistributedExecutionContext ν).createChildContext h.agent
      h.spanId := by
  have hfold : ∀ (items : List (Str × ν)) (ctx : DistributedExecutionContext ν), ∃ baggage,
      items.foldl (fun ctx item => ctx.addBaggage item.1 item.2) ctx = { ctx with baggage } := by
    intro items
    induction items with
    | nil => exact fun ctx => ⟨ctx.baggage, rfl⟩
    | cons item items ih =>
      intro ctx
      obtain ⟨baggage, heq⟩ := ih (ctx.addBaggage item.1 item.2)
      exact ⟨baggage, heq⟩
  obtain ⟨baggage, heq⟩ := hfold h.baggage ctx
  exact ⟨baggage, by rw [Hop.child, heq]⟩

theorem Hop.agentChain_child (ctx : DistributedExecutionContext ν) (h : Hop ν) :
    (h.child ctx).agentChain = ctx.agentChain ++ [h.agent] := by
  obtain ⟨baggage, heq⟩ := h.child_eq ctx
  rw [heq]
  rfl

theorem Sound.child (hs : Sound U.toUnicodeDb ctx) {h : Hop ν}
    (hname : IsName U.toUnicodeDb h.agent) : Sound U.toUnicodeDb (h.child ctx) := by
  refine ⟨fun a ha => ?_, ?_, ?_⟩
  · rw [h.agentChain_child, List.mem_append, List.mem_singleton] at ha
    rcases ha with ha | rfl
    · exact hs.names a ha
    · exact hname
  · obtain ⟨baggage, heq⟩ := h.child_eq ctx
    rw [heq]
    show ',' ∉ if ctx.originAgent = [] then ctx.currentAgent else ctx.originAgent
    split
    · exact hs.current
    · exact hs.origin
  · obtain ⟨baggage, heq⟩ := h.child_eq ctx
    rw [heq]
    exact hname.2.1

/-- **One hop**: the next agent is added to the chain, if the header is read. -/
theorem agentChain_hop (str : ν → Str) (ofStr : Str → ν) (hs : Sound U.toUnicodeDb ctx) {h : Hop ν}
    (hname : IsName U.toUnicodeDb h.agent) :
    (hop U str ofStr ctx h).agentChain =
      if h.fits ctx then (ctx.agentChain ++ [h.agent]).take maxAgentChainLength else [] := by
  have hchain : (h.child ctx).agentChain ≠ [] := by simp [h.agentChain_child]
  rw [hop, (hs.child hname).agentChain_received hchain, h.agentChain_child]
  simp only [Hop.fits, decide_eq_true_eq]

theorem Sound.hop (str : ν → Str) (ofStr : Str → ν) (hs : Sound U.toUnicodeDb ctx) {h : Hop ν}
    (hname : IsName U.toUnicodeDb h.agent) :
    Sound U.toUnicodeDb (ContextPropagation.hop U str ofStr ctx h) :=
  (hs.child hname).received (by simp [h.agentChain_child]) str ofStr h.drawn

end

/-! ### A path -/

section

variable {ν : Type} {U : UnicodeTables} (str : ν → Str) (ofStr : Str → ν)

theorem Sound.travel {ctx : DistributedExecutionContext ν} (hs : Sound U.toUnicodeDb ctx)
    {hops : List (Hop ν)} (hnames : ∀ h ∈ hops, IsName U.toUnicodeDb h.agent) :
    Sound U.toUnicodeDb (ContextPropagation.travel U str ofStr ctx hops) := by
  induction hops generalizing ctx with
  | nil => exact hs
  | cons h hops ih =>
    exact ih (hs.hop str ofStr (hnames h List.mem_cons_self))
      fun h' hh' => hnames h' (List.mem_cons_of_mem _ hh')

/-- **The chain after a path** consists of the first agents visited since the last hop whose header
was not read. -/
theorem agentChain_travel {ctx : DistributedExecutionContext ν} (hs : Sound U.toUnicodeDb ctx)
    {hops : List (Hop ν)} (hnames : ∀ h ∈ hops, IsName U.toUnicodeDb h.agent) {seen : List Str}
    (hseen : ctx.agentChain = seen.take maxAgentChainLength) :
    (travel U str ofStr ctx hops).agentChain =
      (visited U str ofStr ctx seen hops).take maxAgentChainLength := by
  induction hops generalizing ctx seen with
  | nil => exact hseen
  | cons h hops ih =>
    have hname := hnames h List.mem_cons_self
    refine ih (hs.hop str ofStr hname) (fun h' hh' => hnames h' (List.mem_cons_of_mem _ hh')) ?_
    rw [agentChain_hop str ofStr hs hname, hseen]
    split
    · rw [List.take_append, List.take_append, List.take_take, List.length_take]
      congr 2
      omega
    · rfl

/-- If every header is read, all agents of the path have been visited. -/
theorem visited_of_allFit {ctx : DistributedExecutionContext ν} {hops : List (Hop ν)}
    (hfit : allFit U str ofStr ctx hops = true) (seen : List Str) :
    visited U str ofStr ctx seen hops = seen ++ hops.map Hop.agent := by
  induction hops generalizing ctx seen with
  | nil => simp [visited]
  | cons h hops ih =>
    obtain ⟨hfits, hrest⟩ := Bool.and_eq_true_iff.mp hfit
    rw [visited, if_pos hfits, ih hrest]
    simp

/-- **Cycle detection.** With at most `MAX_AGENT_CHAIN_LENGTH` agents visited since the last hop
whose tracestate header was too long, the chain is the sequence of these agents; it knows the first
of them at any time, and it becomes shorter at no hop whose header is read. Along a path of which
every header is read, these are all agents of the path. -/
theorem cycle_detection (ctx : DistributedExecutionContext ν) (hops : List (Hop ν))
    (hempty : ctx.agentChain = []) (horigin : ',' ∉ ctx.originAgent)
    (hcurrent : ',' ∉ ctx.currentAgent) (hnames : ∀ h ∈ hops, IsName U.toUnicodeDb h.agent) :
    ((visited U str ofStr ctx [] hops).length ≤ maxAgentChainLength →
      (travel U str ofStr ctx hops).agentChain = visited U str ofStr ctx [] hops) ∧
    (∀ a ∈ (visited U str ofStr ctx [] hops).take maxAgentChainLength,
      (travel U str ofStr ctx hops).isCyclic a = true) ∧
    (∀ h : Hop ν, IsName U.toUnicodeDb h.agent → h.fits (travel U str ofStr ctx hops) = true →
      (travel U str ofStr ctx hops).agentChain.length ≤
        (travel U str ofStr ctx (hops ++ [h])).agentChain.length) ∧
    (allFit U str ofStr ctx hops = true →
      visited U str ofStr ctx [] hops = hops.map Hop.agent) := by
  have hs : Sound U.toUnicodeDb ctx := ⟨by simp [hempty], horigin, hcurrent⟩
  have hchain : (travel U str ofStr ctx hops).agentChain =
      (visited U str ofStr ctx [] hops).take maxAgentChainLength :=
    agentChain_travel str ofStr hs hnames (by simp [hempty])
  refine ⟨fun hlength => ?_, fun a ha => ?_, fun h hname hfits => ?_,
    fun hfit => visited_of_allFit str ofStr hfit []⟩
  · rw [hchain, List.take_of_length_le hlength]
  · rw [DistributedExecutionContext.isCyclic, hchain]
    simpa using ha
  · have htravel : travel U str ofStr ctx (hops ++ [h]) =
        hop U str ofStr (travel U str ofStr ctx hops) h := List.foldl_concat _ _ _ _
    have hbound : (travel U str ofStr ctx hops).agentChain.length ≤ maxAgentChainLength := by
      rw [hchain]
      exact List.length_take_le _ _
    rw [htravel, agentChain_hop str ofStr (hs.travel str ofStr hnames) hname, if_pos hfits,
      List.length_take, List.length_append, List.length_singleton]
    omega

end

/-! ### A name that is too long for the header -/

/-- A call to an agent, with nothing in the baggage. -/
def callTo (agent : Str) : Hop Str where
  agent
  baggage := []
  spanId := List.replicate 16 'b'
  drawn := ⟨List.replicate 32 'c', List.replicate 16 'd', List.replicate 16 'e'⟩

def emptyContext : DistributedExecutionContext Str :=
  .new (List.replicate 32 'a') (List.replicate 16 'a')

/-- A call that has come to its second agent. -/
theorem cycle_detection_two :
    (travel UnicodeTables.ascii id id emptyContext
      [callTo "planner".toList, callTo "coder".toList]).agentChain =
        ["planner".toList, "coder".toList] ∧
    (travel UnicodeTables.ascii id id emptyContext
      [callTo "planner".toList, callTo "coder".toList]).isCyclic "planner".toList = true := by
  obtain ⟨hchain, hcyclic, -, hvisited⟩ := cycle_detection (U := UnicodeTables.ascii) id id
    emptyContext [callTo "planner".toList, callTo "coder".toList] rfl (by decide) (by decide)
    (by decide)
  have hfit := hvisited (by decide)
  rw [hfit] at hchain hcyclic
  exact ⟨hchain (by decide), hcyclic _ (by decide)⟩

/-- The chain is lost at an agent with a name of 250 letters. -/
theorem cycle_undetected :
    ¬ ∀ hops : List (Hop Str), (∀ h ∈ hops, IsName UnicodeTables.ascii.toUnicodeDb h.agent) →
      hops.length ≤ maxAgentChainLength →
      (travel UnicodeTables.ascii id id emptyContext hops).agentChain = hops.map Hop.agent := by
  intro hall
  have hname : IsName UnicodeTables.ascii.toUnicodeDb (List.replicate 250 'x') := by
    decide +kernel
  have hfits : (callTo (List.replicate 250 'x')).fits emptyContext = false := by decide +kernel
  have hs : Sound UnicodeTables.ascii.toUnicodeDb emptyContext :=
    ⟨by simp [emptyContext, DistributedExecutionContext.new], by decide, by decide⟩
  have hchain := hall [callTo (List.replicate 250 'x')]
    (fun h hh => List.mem_singleton.mp hh ▸ hname) (by decide)
  have hhop := agentChain_hop (U := UnicodeTables.ascii) id id hs
    (h := callTo (List.replicate 250 'x')) hname
  rw [hfits] at hhop
  cases hhop.symm.trans hchain

end ContextPropagation

end OpenLangGraph

import OpenLangGraph.Core.Sse
import OpenLangGraph.Foundation.EventStream
import OpenLangGraph.Foundation.JsonText

/-!
# The text of server-sent events

`Core.Sse` keeps a message as its event name, its data and its id. Here is the text that
`format_sse_message` makes of it, and that a client who reads the texts of several messages, one
after the other, sees these messages.

What an event stream could confuse is told apart by the encoder of the data: no text of it has a
line break, so that a message has exactly one line of data, and every name and id stands on a line
of its own.

## Main definitions

* `GeneralSerializer.encodeTree` — `json.dumps`, up to the text
* `Sse.formatText`, `Sse.createMessagesText`
* `Sse.Received` — what a client makes of an event

## Main results

* `GeneralSerializer.value_encodeTree` — the text has the data that `encode` says
* `Sse.received_formatTexts` — messages are read back
-/

open PyString

namespace OpenLangGraph

namespace GeneralSerializer

mutual

/-- What `encode` encodes, with the order of the members and the kinds of numbers. -/
def encodeTree (default serialized : Bool) : PyVal → Option JsonTree
  | .none => some .null
  | .bool b => some (.bool b)
  | .int n => some (.int n)
  | .float x => some (.float x)
  | .str s => some (.str s)
  | .list items => (treesOfItems default serialized items).map .arr
  | .tuple items => (treesOfItems default serialized items).map .arr
  | .dict entries => (treesOfEntries default serialized entries).map .obj
  | .namedtuple fields =>
    if serialized then (treesOfFields default true fields).map .obj
    else (treesOfFields default false fields).map fun es => .arr (es.map Prod.snd)
  | .set items =>
    if default || serialized then (treesOfItems default false items).map .arr else none
  | .model dump => if default || serialized then encodeTree default false dump else none
  | .interrupt value id =>
    if default || serialized then do
      let value ← encodeTree default true value
      let id ← encodeTree default false id
      return .obj [("value", value), ("id", id)]
    else none
  | .other text => if default || serialized then some (.str text) else none

def treesOfItems (default serialized : Bool) : List PyVal → Option (List JsonTree)
  | [] => some []
  | v :: vs => do
    let t ← encodeTree default serialized v
    let ts ← treesOfItems default serialized vs
    return t :: ts

def treesOfEntries (default serialized : Bool) :
    List (PyKey × PyVal) → Option (List (String × JsonTree))
  | [] => some []
  | (k, v) :: es => do
    let k ← PyVal.jsonKey k
    let t ← encodeTree default serialized v
    let ts ← treesOfEntries default serialized es
    return (k, t) :: ts

def treesOfFields (default serialized : Bool) :
    List (String × PyVal) → Option (List (String × JsonTree))
  | [] => some []
  | (k, v) :: es => do
    let t ← encodeTree default serialized v
    let ts ← treesOfFields default serialized es
    return (k, t) :: ts

end

/-! ### The data of a tree -/

section

variable {d s : Bool}

open JsonTree

theorem valueItems_treesOfItems {items : List PyVal}
    (ih : ∀ v ∈ items, (encodeTree d s v).map value = encode d s v) :
    (treesOfItems d s items).map valueItems = encodeItems d s items := by
  induction items with
  | nil => rfl
  | cons v vs ihs =>
    rw [treesOfItems, encodeItems, ← ih v List.mem_cons_self,
      ← ihs fun w hw => ih w (List.mem_cons_of_mem _ hw)]
    cases encodeTree d s v <;> cases treesOfItems d s vs <;> rfl

theorem valueEntries_treesOfEntries {entries : List (PyKey × PyVal)}
    (ih : ∀ e ∈ entries, (encodeTree d s e.2).map value = encode d s e.2) :
    (treesOfEntries d s entries).map valueEntries = encodeEntries d s entries := by
  induction entries with
  | nil => rfl
  | cons e es ihs =>
    rw [treesOfEntries, encodeEntries, ← ih e List.mem_cons_self,
      ← ihs fun w hw => ih w (List.mem_cons_of_mem _ hw)]
    cases PyVal.jsonKey e.1 <;> cases encodeTree d s e.2 <;> cases treesOfEntries d s es <;> rfl

theorem valueEntries_treesOfFields {fields : List (String × PyVal)}
    (ih : ∀ e ∈ fields, (encodeTree d s e.2).map value = encode d s e.2) :
    (treesOfFields d s fields).map valueEntries = encodeFields d s fields := by
  induction fields with
  | nil => rfl
  | cons e es ihs =>
    rw [treesOfFields, encodeFields, ← ih e List.mem_cons_self,
      ← ihs fun w hw => ih w (List.mem_cons_of_mem _ hw)]
    cases encodeTree d s e.2 <;> cases treesOfFields d s es <;> rfl

theorem valueItems_map_snd (entries : List (String × JsonTree)) :
    valueItems (entries.map Prod.snd) = (valueEntries entries).map Prod.snd := by
  induction entries with
  | nil => rfl
  | cons e es ih => rw [List.map_cons, valueItems, valueEntries, List.map_cons, ih]

/-- **The data of a text** is what `encode` says. -/
theorem value_encodeTree (v : PyVal) : (encodeTree d s v).map value = encode d s v := by
  induction v using PyVal.memInduction generalizing s with
  | none | bool | int | float | str => rfl
  | other text => cases h : d || s <;> simp [encodeTree, encode, h, value]
  | list items ih | tuple items ih =>
    rw [encodeTree, encode, ← valueItems_treesOfItems fun v hv => ih v hv, Option.map_map,
      Option.map_map]
    rfl
  | set items ih =>
    rw [encodeTree, encode, ← valueItems_treesOfItems fun v hv => ih v hv]
    split
    · rw [Option.map_map, Option.map_map]
      rfl
    · rfl
  | dict entries ih =>
    rw [encodeTree, encode, ← valueEntries_treesOfEntries fun e he => ih e he, Option.map_map,
      Option.map_map]
    rfl
  | namedtuple fields ih =>
    rw [encodeTree, encode, ← valueEntries_treesOfFields fun e he => ih e he,
      ← valueEntries_treesOfFields fun e he => ih e he]
    split
    · rw [Option.map_map, Option.map_map]
      rfl
    · rw [Option.map_map, Option.map_map]
      refine congrArg (Option.map · _) (funext fun es => ?_)
      exact congrArg Json.arr (valueItems_map_snd es)
  | model dump ih =>
    rw [encodeTree, encode, ← ih]
    split <;> rfl
  | interrupt value id ihv ihi =>
    rw [encodeTree, encode, ← ihv, ← ihi]
    split
    · cases encodeTree d true value <;> cases encodeTree d false id <;> rfl
    · rfl

/-- A tuple is written as the list of its items, a named tuple too. -/
theorem encodeTree_of_asTuple {v : PyVal} {items : List PyVal} (h : v.asTuple = some items) :
    encodeTree d false v = encodeTree d false (.list items) := by
  cases v with
  | tuple items' =>
    cases h
    rfl
  | namedtuple fields =>
    cases h
    have hfields : treesOfItems d false (fields.map Prod.snd) =
        (treesOfFields d false fields).map fun es => es.map Prod.snd := by
      induction fields with
      | nil => rfl
      | cons e es ih =>
        rw [List.map_cons, treesOfItems, treesOfFields, ih]
        cases encodeTree d false e.2 <;> cases treesOfFields d false es <;> rfl
    rw [encodeTree, encodeTree, hfields, Option.map_map]
    rfl
  | none | bool | int | float | str | list | set | dict | model | interrupt | other => cases h

/-! ### The floats of a tree -/

theorem mem_treesOfItems {items : List PyVal} {ts : List JsonTree}
    (h : treesOfItems d s items = some ts) :
    ∀ t ∈ ts, ∃ v ∈ items, encodeTree d s v = some t := by
  induction items generalizing ts with
  | nil =>
    cases h
    exact List.forall_mem_nil _
  | cons v vs ih =>
    obtain ⟨t, ht, h⟩ := Option.bind_eq_some_iff.mp h
    obtain ⟨ts, hts, h⟩ := Option.bind_eq_some_iff.mp h
    cases h
    refine List.forall_mem_cons.mpr ⟨⟨v, List.mem_cons_self, ht⟩, fun u hu => ?_⟩
    obtain ⟨w, hw, hwu⟩ := ih hts u hu
    exact ⟨w, List.mem_cons_of_mem _ hw, hwu⟩

theorem mem_treesOfEntries {entries : List (PyKey × PyVal)} {ts : List (String × JsonTree)}
    (h : treesOfEntries d s entries = some ts) :
    ∀ t ∈ ts, ∃ v ∈ entries.map Prod.snd, encodeTree d s v = some t.2 := by
  induction entries generalizing ts with
  | nil =>
    cases h
    exact List.forall_mem_nil _
  | cons e es ih =>
    obtain ⟨k, -, h⟩ := Option.bind_eq_some_iff.mp h
    obtain ⟨t, ht, h⟩ := Option.bind_eq_some_iff.mp h
    obtain ⟨ts, hts, h⟩ := Option.bind_eq_some_iff.mp h
    cases h
    refine List.forall_mem_cons.mpr ⟨⟨e.2, List.mem_cons_self, ht⟩, fun u hu => ?_⟩
    obtain ⟨w, hw, hwu⟩ := ih hts u hu
    exact ⟨w, List.mem_cons_of_mem _ hw, hwu⟩

theorem mem_treesOfFields {fields : List (String × PyVal)} {ts : List (String × JsonTree)}
    (h : treesOfFields d s fields = some ts) :
    ∀ t ∈ ts, ∃ v ∈ fields.map Prod.snd, encodeTree d s v = some t.2 := by
  induction fields generalizing ts with
  | nil =>
    cases h
    exact List.forall_mem_nil _
  | cons e es ih =>
    obtain ⟨t, ht, h⟩ := Option.bind_eq_some_iff.mp h
    obtain ⟨ts, hts, h⟩ := Option.bind_eq_some_iff.mp h
    cases h
    refine List.forall_mem_cons.mpr ⟨⟨e.2, List.mem_cons_self, ht⟩, fun u hu => ?_⟩
    obtain ⟨w, hw, hwu⟩ := ih hts u hu
    exact ⟨w, List.mem_cons_of_mem _ hw, hwu⟩

/-- A number that is a `float` is one that a float can be. -/
def IsFloat (v : PyVal) : Prop := ∀ q, v = .float (.finite q) → PyFloat.IsDouble q

theorem doubles_encodeTree {v : PyVal} (hv : v.Everywhere IsFloat) {t : JsonTree}
    (h : encodeTree d s v = some t) : t.Doubles := by
  induction v using PyVal.memInduction generalizing s t with
  | none =>
    cases h
    exact .null
  | bool b =>
    cases h
    exact .bool b
  | int n =>
    cases h
    exact .int n
  | float x =>
    cases h
    exact .float fun q hq => hv.self q (congrArg PyVal.float hq)
  | str u =>
    cases h
    exact .str u
  | other text =>
    obtain ⟨-, h⟩ := Option.ite_none_right_eq_some.mp h
    cases h
    exact .str text
  | list items ih | tuple items ih =>
    obtain ⟨ts, hts, rfl⟩ := Option.map_eq_some_iff.mp h
    refine .arr fun t ht => ?_
    obtain ⟨v, hmem, hvt⟩ := mem_treesOfItems hts t ht
    exact ih v hmem (hv.member hmem) hvt
  | set items ih =>
    obtain ⟨-, h⟩ := Option.ite_none_right_eq_some.mp h
    obtain ⟨ts, hts, rfl⟩ := Option.map_eq_some_iff.mp h
    refine .arr fun t ht => ?_
    obtain ⟨v, hmem, hvt⟩ := mem_treesOfItems hts t ht
    exact ih v hmem (hv.member hmem) hvt
  | dict entries ih =>
    obtain ⟨ts, hts, rfl⟩ := Option.map_eq_some_iff.mp h
    refine .obj fun t ht => ?_
    obtain ⟨v, hmem, hvt⟩ := mem_treesOfEntries hts t ht
    obtain ⟨e, he, rfl⟩ := List.mem_map.mp hmem
    exact ih e he (hv.member hmem) hvt
  | namedtuple fields ih =>
    have hall : ∀ {s ts}, treesOfFields d s fields = some ts → ∀ t ∈ ts, t.2.Doubles := by
      intro s ts hts t ht
      obtain ⟨v, hmem, hvt⟩ := mem_treesOfFields hts t ht
      obtain ⟨e, he, rfl⟩ := List.mem_map.mp hmem
      exact ih e he (hv.member hmem) hvt
    rw [encodeTree] at h
    split at h
    · obtain ⟨ts, hts, rfl⟩ := Option.map_eq_some_iff.mp h
      exact .obj (hall hts)
    · obtain ⟨ts, hts, rfl⟩ := Option.map_eq_some_iff.mp h
      exact .arr (List.forall_mem_map.mpr (hall hts))
  | model dump ih =>
    obtain ⟨-, h⟩ := Option.ite_none_right_eq_some.mp h
    exact ih (hv.member List.mem_cons_self) h
  | interrupt value id ihv ihi =>
    obtain ⟨-, h⟩ := Option.ite_none_right_eq_some.mp h
    obtain ⟨a, ha, h⟩ := Option.bind_eq_some_iff.mp h
    obtain ⟨b, hb, h⟩ := Option.bind_eq_some_iff.mp h
    cases h
    have hvalue := ihv (hv.member List.mem_cons_self) ha
    have hid := ihi (hv.member (List.mem_cons_of_mem _ List.mem_cons_self)) hb
    exact .obj (List.forall_mem_cons.mpr ⟨hvalue, List.forall_mem_singleton.mpr hid⟩)

/-- What is written is read as the data. -/
theorem jsonLoads_text {v : PyVal} (hv : v.Everywhere IsFloat) {t : JsonTree}
    (h : encodeTree d s v = some t) : jsonLoads t.text = encode d s v := by
  rw [jsonLoads, JsonTree.readTree_text (doubles_encodeTree hv h), ← value_encodeTree, h]

end

end GeneralSerializer

namespace Sse

/-- The text of the data. `none` is an exception of the encoder. -/
def dataText : PyVal → Option Str
  | .none => some []
  | data => (GeneralSerializer.encodeTree true false data).map JsonTree.text

theorem dataText_of_ne_none {data : PyVal} (h : data ≠ .none) :
    dataText data = (GeneralSerializer.encodeTree true false data).map JsonTree.text := by
  rw [dataText.eq_def]
  split
  · exact absurd rfl h
  · rfl

/-- `format_sse_message(event, data, event_id)` -/
def formatText (event : Str) (data : PyVal) (eventId : Option Str) : Option Str := do
  let dataStr ← dataText data
  let lines := ["event: ".toList ++ event, "data: ".toList ++ dataStr] ++
    (match truthy eventId with
      | some id => ["id: ".toList ++ id]
      | none => []) ++ [[]]
  return List.intercalate ['\n'] lines ++ ['\n']

/-- `create_messages_event(messages_data, event_type, event_id)` -/
def createMessagesText (messagesData : PyVal) (eventType : Str) (eventId : Option Str) :
    Option Str :=
  match messagesData.asTuple with
  | some [messageChunk, metadata] =>
    formatText eventType (.list [messageChunk, metadata]) eventId
  | _ => formatText eventType messagesData eventId

/-- A message that is sent, with an id. -/
structure Message where
  event : Str
  data : PyVal
  id : Str

namespace Message

/-- `format_sse_message` of the message. -/
def text (m : Message) : Option Str := formatText m.event m.data (some m.id)

/-- The event name and the id are lines, neither of them empty, and the data can be encoded and is
not `None`. -/
structure Sendable (m : Message) : Prop where
  event_isLine : EventStream.IsLine m.event
  event_ne_nil : m.event ≠ []
  id_isLine : EventStream.IsLine m.id
  id_ne_nil : m.id ≠ []
  id_noNul : '\x00' ∉ m.id
  data_ne_none : m.data ≠ .none
  data_floats : m.data.Everywhere GeneralSerializer.IsFloat
  data_encodes : (GeneralSerializer.dumps true m.data).isSome = true

end Message

/-- What a client makes of an event: its name, its data as JSON, and its id. -/
def received (e : EventStream.Event) : Str × Option Json × Str :=
  (e.type, jsonLoads e.data, e.lastEventId)

open EventStream

/-- A pair is sent as a list, and so is its text that of the pair. -/
theorem createMessagesText_eq (messagesData : PyVal) (eventType : Str) (eventId : Option Str) :
    createMessagesText messagesData eventType eventId =
      formatText eventType messagesData eventId := by
  rw [createMessagesText]
  split
  · next messageChunk metadata htuple =>
    have hne : messagesData ≠ .none := by
      rintro rfl
      cases htuple
    rw [formatText, formatText, dataText_of_ne_none hne, dataText_of_ne_none (by simp),
      GeneralSerializer.encodeTree_of_asTuple htuple]
  · rfl

/-- The lines of a message. -/
theorem text_eq {m : Message} (h : m.Sendable) : ∃ t,
    GeneralSerializer.encodeTree true false m.data = some t ∧
      m.text = some ([fieldLine "event" m.event, fieldLine "data" t.text, fieldLine "id" m.id,
        []].flatMap fun line => line ++ ['\n']) := by
  have hencodes := h.data_encodes
  rw [GeneralSerializer.dumps, ← GeneralSerializer.value_encodeTree, Option.isSome_map] at hencodes
  obtain ⟨t, ht⟩ := Option.isSome_iff_exists.mp hencodes
  have hdata : dataText m.data = some t.text := by
    rw [dataText_of_ne_none h.data_ne_none, ht, Option.map_some]
  have hid : truthy (some m.id) = some m.id := by
    rw [truthy, Option.filter_some, if_pos (decide_eq_true h.id_ne_nil)]
  refine ⟨t, ht, ?_⟩
  rw [Message.text, formatText, hdata, hid]
  simp [fieldLine, List.intercalate]

/-- **Reading messages**, one after the other. -/
theorem received_run {messages : List Message} (h : ∀ m ∈ messages, m.Sendable) :
    ∃ texts, messages.mapM Message.text = some texts ∧ (∀ c ∈ texts.flatten.head?, c = 'e') ∧
      ∀ last : Str, (run ⟨[], [], last⟩ (linesFrom [] false texts.flatten)).map received =
        messages.map fun m => (m.event, GeneralSerializer.dumps true m.data, m.id) := by
  induction messages with
  | nil =>
    refine ⟨[], rfl, fun c hc => ?_, fun _ => rfl⟩
    cases hc
  | cons m messages ih =>
    obtain ⟨hm, hmessages⟩ := List.forall_mem_cons.mp h
    obtain ⟨t, ht, htext⟩ := text_eq hm
    obtain ⟨texts, htexts, -, hread⟩ := ih hmessages
    refine ⟨_, by rw [List.mapM_cons, htext, htexts]; rfl,
      fun c hc => by simpa [fieldLine, eq_comm] using hc, fun last => ?_⟩
    have hlines : ∀ line ∈ [fieldLine "event" m.event, fieldLine "data" t.text,
        fieldLine "id" m.id, []], IsLine line := by
      have hdata : IsLine t.text :=
        ⟨fun hc => absurd (t.printable_text _ hc) (by decide),
          fun hc => absurd (t.printable_text _ hc) (by decide)⟩
      simp only [List.forall_mem_cons]
      exact ⟨isLine_fieldLine (by decide) hm.event_isLine, isLine_fieldLine (by decide) hdata,
        isLine_fieldLine (by decide) hm.id_isLine, isLine_nil, List.forall_mem_nil _⟩
    rw [List.flatten_cons, linesFrom_flatMap hlines, run_frame hm.event_ne_nil hm.id_noNul,
      List.map_cons, List.map_cons, hread, received,
      GeneralSerializer.jsonLoads_text hm.data_floats ht]
    rfl

/-- **Server-sent events are read back**: what a client reads of the texts of messages, one after
the other, are these messages. -/
theorem received_formatTexts (messages : List Message) (h : ∀ m ∈ messages, m.Sendable) :
    (messages.mapM Message.text).map (fun texts => (parse texts.flatten).map received) =
      some (messages.map fun m => (m.event, GeneralSerializer.dumps true m.data, m.id)) := by
  obtain ⟨texts, htexts, hhead, hread⟩ := received_run h
  have hmark : ∀ c ∈ texts.flatten.head?, c ≠ Char.ofNat 0xfeff := by
    intro c hc
    rw [hhead c hc]
    decide
  rw [htexts, Option.map_some, parse_of_head hmark, hread]

/-- Data that looks like the end of a message and the beginning of another. -/
def sampleData : PyVal :=
  .dict [(.str "lines", .list [.str "a\n\ndata: b", .float (.finite (1 / 2))])]

open GeneralSerializer in
theorem isFloat_sampleData : sampleData.Everywhere IsFloat := by
  have hhalf : PyFloat.IsDouble (1 / 2) := by decide +kernel
  have hleaf : ∀ v : PyVal, v.members = [] → IsFloat v → v.Everywhere IsFloat :=
    fun v hv hself => .intro hself (by rw [hv]; exact List.forall_mem_nil _)
  have htext := hleaf (.str "a\n\ndata: b") rfl (by simp [IsFloat])
  have hnumber := hleaf (.float (.finite (1 / 2))) rfl (by simpa [IsFloat] using hhalf)
  have hlist : (PyVal.list [.str "a\n\ndata: b", .float (.finite (1 / 2))]).Everywhere IsFloat :=
    .intro (by simp [IsFloat])
      (List.forall_mem_cons.mpr ⟨htext, List.forall_mem_singleton.mpr hnumber⟩)
  exact .intro (by simp [sampleData, IsFloat]) (List.forall_mem_singleton.mpr hlist)

theorem received_formatTexts_line_breaks :
    ([⟨"values".toList, sampleData, "run_event_1".toList⟩,
        ⟨"end".toList, .bool true, "run_event_2".toList⟩].mapM Message.text).map
      (fun texts => (parse texts.flatten).map received) =
    some [("values".toList,
        some (.obj [("lines", .arr [.str "a\n\ndata: b", .num (.finite (1 / 2))])]),
        "run_event_1".toList),
      ("end".toList, some (.bool true), "run_event_2".toList)] := by
  refine received_formatTexts _ (List.forall_mem_cons.mpr ⟨?_, List.forall_mem_singleton.mpr ?_⟩)
  · exact ⟨by decide, by decide, by decide, by decide, by decide, PyVal.noConfusion,
      isFloat_sampleData, rfl⟩
  · refine ⟨by decide, by decide, by decide, by decide, by decide, PyVal.noConfusion, ?_, rfl⟩
    exact .intro (by simp [GeneralSerializer.IsFloat]) (List.forall_mem_nil _)

end Sse

end OpenLangGraph

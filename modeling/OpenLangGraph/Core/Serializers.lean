import OpenLangGraph.Foundation.PyVal

/-!
# The general serializer

The model of `core/serializers/general.py`, and of `json.dumps` as it is called with and without
it: SSE messages are encoded with `default=serializer.serialize`, event rows are serialized first
and then encoded by the JSONB type, which has no default.

## Implementation notes

`json.dumps` with a default calls it on an object it cannot encode and encodes what it returns.
Followed literally that is not a structural recursion, since `serialize` rebuilds the value.
`encode` therefore has a flag that says whether the value is still to be serialized first;
`encode_serialize` shows that the flag means that, and `dumps_default` that the default is used as
described.

## Main definitions

* `serialize` — `GeneralSerializer.serialize`
* `dumps` — `json.dumps(v, default=serialize)`, or `json.dumps(v)`

## Main results

* `dumps_default`, `encode_serialize` — what the flags of `encode` mean
* `dumps_ofJson` — reading data and dumping it again gives the same data
* `encode_live_of_stored` — what can be encoded for storing can be encoded live
-/

namespace OpenLangGraph

namespace GeneralSerializer

mutual

/-- `serialize`. None of the branches raises on the values represented here. -/
def serialize : PyVal → PyVal
  | .model dump => dump
  | .interrupt value id => .dict [(.str "value", serialize value), (.str "id", id)]
  | .namedtuple fields => .dict (serializeFields fields)
  | .set items => .list items
  | .tuple items => .list (serializeItems items)
  | .list items => .list (serializeItems items)
  | .dict entries => .dict (serializeEntries entries)
  | .str s => .str s
  | .int n => .int n
  | .float x => .float x
  | .bool b => .bool b
  | .none => .none
  | .other text => .str text

def serializeItems : List PyVal → List PyVal
  | [] => []
  | v :: vs => serialize v :: serializeItems vs

def serializeEntries : List (PyKey × PyVal) → List (PyKey × PyVal)
  | [] => []
  | (k, v) :: es => (k, serialize v) :: serializeEntries es

def serializeFields : List (String × PyVal) → List (PyKey × PyVal)
  | [] => []
  | (k, v) :: es => (.str k, serialize v) :: serializeFields es

end

mutual

/-- The JSON data of a value, of `serialize v` instead of `v` if `serialized`, and with or without
`default=serialize`. `none` is `TypeError`. -/
def encode (default serialized : Bool) : PyVal → Option Json
  | .none => some .null
  | .bool b => some (.bool b)
  | .int n => some (.num (.finite n))
  | .float x => some (.num x)
  | .str s => some (.str s)
  | .list items => (encodeItems default serialized items).map .arr
  | .tuple items => (encodeItems default serialized items).map .arr
  | .dict entries => (encodeEntries default serialized entries).map .ofEntries
  | .namedtuple fields =>
    if serialized then (encodeFields default true fields).map .ofEntries
    else (encodeFields default false fields).map fun es => .arr (es.map Prod.snd)
  | .set items =>
    if default || serialized then (encodeItems default false items).map .arr else none
  | .model dump => if default || serialized then encode default false dump else none
  | .interrupt value id =>
    if default || serialized then do
      let value ← encode default true value
      let id ← encode default false id
      return .ofEntries [("value", value), ("id", id)]
    else none
  | .other text => if default || serialized then some (.str text) else none

def encodeItems (default serialized : Bool) : List PyVal → Option (List Json)
  | [] => some []
  | v :: vs => do
    let j ← encode default serialized v
    let js ← encodeItems default serialized vs
    return j :: js

def encodeEntries (default serialized : Bool) :
    List (PyKey × PyVal) → Option (List (String × Json))
  | [] => some []
  | (k, v) :: es => do
    let k ← PyVal.jsonKey k
    let j ← encode default serialized v
    let js ← encodeEntries default serialized es
    return (k, j) :: js

def encodeFields (default serialized : Bool) : List (String × PyVal) → Option (List (String × Json))
  | [] => some []
  | (k, v) :: es => do
    let j ← encode default serialized v
    let js ← encodeFields default serialized es
    return (k, j) :: js

end

/-- `json.dumps(v, default=serialize)`, or `json.dumps(v)` without the default. -/
def dumps (default : Bool) (v : PyVal) : Option Json := encode default false v

/-! ### Reading the recursions -/

variable {d s : Bool}

theorem encodeItems_cons_eq_some {v : PyVal} {vs : List PyVal} {js : List Json} :
    encodeItems d s (v :: vs) = some js ↔
      ∃ j js', encode d s v = some j ∧ encodeItems d s vs = some js' ∧ js = j :: js' := by
  cases h : encode d s v <;> cases h' : encodeItems d s vs <;>
    simp [encodeItems, h, h', eq_comm]

theorem encodeEntries_cons_eq_some {e : PyKey × PyVal} {es : List (PyKey × PyVal)}
    {js : List (String × Json)} :
    encodeEntries d s (e :: es) = some js ↔
      ∃ k j js', PyVal.jsonKey e.1 = some k ∧ encode d s e.2 = some j ∧
        encodeEntries d s es = some js' ∧ js = (k, j) :: js' := by
  cases hk : PyVal.jsonKey e.1 <;> cases h : encode d s e.2 <;> cases h' : encodeEntries d s es <;>
    simp [encodeEntries, hk, h, h', eq_comm]

theorem encodeFields_cons_eq_some {e : String × PyVal} {es : List (String × PyVal)}
    {js : List (String × Json)} :
    encodeFields d s (e :: es) = some js ↔
      ∃ j js', encode d s e.2 = some j ∧ encodeFields d s es = some js' ∧ js = (e.1, j) :: js' := by
  cases h : encode d s e.2 <;> cases h' : encodeFields d s es <;>
    simp [encodeFields, h, h', eq_comm]

theorem encode_interrupt_eq_some {value id : PyVal} {j : Json} (h : (d || s) = true) :
    encode d s (.interrupt value id) = some j ↔
      ∃ a b, encode d true value = some a ∧ encode d false id = some b ∧
        j = .ofEntries [("value", a), ("id", b)] := by
  cases ha : encode d true value <;> cases hb : encode d false id <;>
    simp [encode, h, ha, hb, eq_comm]

/-- Encoding item by item preserves whatever holds of each item. -/
theorem encodeItems_forall {P : Json → Prop} {items : List PyVal} {js : List Json}
    (hP : ∀ v ∈ items, ∀ j, encode d s v = some j → P j) (h : encodeItems d s items = some js) :
    ∀ j ∈ js, P j := by
  induction items generalizing js with
  | nil => cases h; simp
  | cons v vs ih =>
    obtain ⟨j, js', hj, hjs, rfl⟩ := encodeItems_cons_eq_some.mp h
    exact List.forall_mem_cons.mpr ⟨hP v List.mem_cons_self j hj,
      ih (fun w hw => hP w (List.mem_cons_of_mem _ hw)) hjs⟩

theorem encodeEntries_forall {P : Json → Prop} {entries : List (PyKey × PyVal)}
    {js : List (String × Json)} (hP : ∀ e ∈ entries, ∀ j, encode d s e.2 = some j → P j)
    (h : encodeEntries d s entries = some js) : ∀ e ∈ js, P e.2 := by
  induction entries generalizing js with
  | nil => cases h; simp
  | cons e es ih =>
    obtain ⟨k, j, js', -, hj, hjs, rfl⟩ := encodeEntries_cons_eq_some.mp h
    exact List.forall_mem_cons.mpr ⟨hP e List.mem_cons_self j hj,
      ih (fun w hw => hP w (List.mem_cons_of_mem _ hw)) hjs⟩

theorem encodeFields_forall {P : Json → Prop} {fields : List (String × PyVal)}
    {js : List (String × Json)} (hP : ∀ e ∈ fields, ∀ j, encode d s e.2 = some j → P j)
    (h : encodeFields d s fields = some js) : ∀ e ∈ js, P e.2 := by
  induction fields generalizing js with
  | nil => cases h; simp
  | cons e es ih =>
    obtain ⟨j, js', hj, hjs, rfl⟩ := encodeFields_cons_eq_some.mp h
    exact List.forall_mem_cons.mpr ⟨hP e List.mem_cons_self j hj,
      ih (fun w hw => hP w (List.mem_cons_of_mem _ hw)) hjs⟩

/-! ### What the flags mean -/

theorem encodeItems_serializeItems {items : List PyVal}
    (ih : ∀ v ∈ items, encode d false (serialize v) = encode d true v) :
    encodeItems d false (serializeItems items) = encodeItems d true items := by
  induction items with
  | nil => rfl
  | cons v vs ihs =>
    rw [serializeItems, encodeItems, encodeItems, ih v List.mem_cons_self,
      ihs fun w hw => ih w (List.mem_cons_of_mem _ hw)]

theorem encodeEntries_serializeEntries {entries : List (PyKey × PyVal)}
    (ih : ∀ e ∈ entries, encode d false (serialize e.2) = encode d true e.2) :
    encodeEntries d false (serializeEntries entries) = encodeEntries d true entries := by
  induction entries with
  | nil => rfl
  | cons e es ihs =>
    rw [serializeEntries, encodeEntries, encodeEntries, ih e List.mem_cons_self,
      ihs fun w hw => ih w (List.mem_cons_of_mem _ hw)]

theorem encodeEntries_serializeFields {fields : List (String × PyVal)}
    (ih : ∀ e ∈ fields, encode d false (serialize e.2) = encode d true e.2) :
    encodeEntries d false (serializeFields fields) = encodeFields d true fields := by
  induction fields with
  | nil => rfl
  | cons e es ihs =>
    rw [serializeFields, encodeEntries, encodeFields, ih e List.mem_cons_self,
      ihs fun w hw => ih w (List.mem_cons_of_mem _ hw)]
    rfl

/-- **The flag `serialized`** stands for a pass of `serialize` before the encoding. -/
theorem encode_serialize (v : PyVal) : encode d false (serialize v) = encode d true v := by
  induction v using PyVal.memInduction with
  | none | bool | int | float | str => rfl
  | other text => simp [serialize, encode]
  | list items ih => rw [serialize, encode, encode, encodeItems_serializeItems ih]
  | tuple items ih => rw [serialize, encode, encode, encodeItems_serializeItems ih]
  | set items => simp [serialize, encode]
  | dict entries ih => rw [serialize, encode, encode, encodeEntries_serializeEntries ih]
  | namedtuple fields ih =>
    rw [serialize, encode, encode, encodeEntries_serializeFields ih]
    simp
  | model dump => simp [serialize, encode]
  | interrupt value id ihv _ =>
    cases hv : encode d true value <;> cases hi : encode d false id <;>
      simp [serialize, encode, encodeEntries, PyVal.jsonKey, ihv, hv, hi]

/-- What `json.dumps` cannot encode on its own. -/
def NeedsDefault : PyVal → Prop
  | .set _ | .model _ | .interrupt _ _ | .other _ => True
  | _ => False

/-- **The default** is asked for exactly the objects that `json.dumps` cannot encode, and what it
returns is encoded in turn. -/
theorem dumps_default {v : PyVal} (h : NeedsDefault v) :
    dumps true v = dumps true (serialize v) ∧ dumps false v = none := by
  refine ⟨?_, ?_⟩
  · rw [dumps, dumps, encode_serialize]
    cases v <;> first | exact h.elim | simp [encode]
  · cases v <;> first | exact h.elim | simp [dumps, encode]

/-- The data a row holds for a value: serialized, then encoded without a default. -/
theorem dumps_serialize (v : PyVal) : dumps false (serialize v) = encode false true v :=
  encode_serialize v

/-! ### The data of a value -/

/-- What is encoded is canonical. -/
theorem canonical_encode {v : PyVal} {j : Json} (h : encode d s v = some j) : j.Canonical := by
  induction v using PyVal.memInduction generalizing s j with
  | none => cases h; exact .null
  | bool b => cases h; exact .bool b
  | int n => cases h; exact .num _
  | float x => cases h; exact .num x
  | str t => cases h; exact .str t
  | other text =>
    simp only [encode, ite_eq_iff, Option.some.injEq, reduceCtorEq, and_false, or_false] at h
    exact h.2 ▸ .str text
  | list items ih =>
    obtain ⟨js, hjs, rfl⟩ := Option.map_eq_some_iff.mp h
    exact .arr (encodeItems_forall (fun v hv j hj => ih v hv hj) hjs)
  | tuple items ih =>
    obtain ⟨js, hjs, rfl⟩ := Option.map_eq_some_iff.mp h
    exact .arr (encodeItems_forall (fun v hv j hj => ih v hv hj) hjs)
  | set items ih =>
    simp only [encode] at h
    split at h
    · obtain ⟨js, hjs, rfl⟩ := Option.map_eq_some_iff.mp h
      exact .arr (encodeItems_forall (fun v hv j hj => ih v hv hj) hjs)
    · cases h
  | dict entries ih =>
    obtain ⟨js, hjs, rfl⟩ := Option.map_eq_some_iff.mp h
    exact .ofEntries (encodeEntries_forall (fun e he j hj => ih e he hj) hjs)
  | namedtuple fields ih =>
    simp only [encode] at h
    split at h
    · obtain ⟨js, hjs, rfl⟩ := Option.map_eq_some_iff.mp h
      exact .ofEntries (encodeFields_forall (fun e he j hj => ih e he hj) hjs)
    · obtain ⟨js, hjs, rfl⟩ := Option.map_eq_some_iff.mp h
      refine .arr fun j hj => ?_
      obtain ⟨e, he, rfl⟩ := List.mem_map.mp hj
      exact encodeFields_forall (fun e he j hj => ih e he hj) hjs e he
  | model dump ih =>
    simp only [encode] at h
    split at h
    · exact ih h
    · cases h
  | interrupt value id ihv ihi =>
    cases hds : d || s with
    | false => simp [encode, hds] at h
    | true =>
      obtain ⟨a, b, ha, hb, rfl⟩ := (encode_interrupt_eq_some hds).mp h
      exact .ofEntries (by simpa using ⟨ihv ha, ihi hb⟩)

/-- **Reading and dumping again.** Canonical data survives `json.loads` and `json.dumps`. -/
theorem dumps_ofJson {j : Json} (h : j.Canonical) : dumps d (PyVal.ofJson j) = some j := by
  induction h with
  | null | bool | num | str => rfl
  | @arr js _ ih =>
    have hitems : encodeItems d false (PyVal.ofJsonItems js) = some js := by
      clear * - ih
      induction js with
      | nil => rfl
      | cons j js ihs =>
        exact encodeItems_cons_eq_some.mpr ⟨j, js, ih j List.mem_cons_self,
          ihs (fun k hk => ih k (List.mem_cons_of_mem _ hk)), rfl⟩
    simp [dumps, PyVal.ofJson, encode, hitems]
  | @obj es hs _ ih =>
    have hentries : encodeEntries d false (PyVal.ofJsonEntries es) = some es := by
      clear * - ih
      induction es with
      | nil => rfl
      | cons e es ihs =>
        exact encodeEntries_cons_eq_some.mpr ⟨e.1, e.2, es, rfl, ih e List.mem_cons_self,
          ihs (fun k hk => ih k (List.mem_cons_of_mem _ hk)), rfl⟩
    simp [dumps, PyVal.ofJson, encode, hentries, Json.ofEntries_of_sorted hs]

/-- A tuple is encoded as the list of its items, a named tuple too. -/
theorem dumps_of_asTuple {v : PyVal} {items : List PyVal} (h : v.asTuple = some items) :
    dumps d v = dumps d (.list items) := by
  cases v with
  | tuple l => rw [← Option.some.inj h]; rfl
  | namedtuple fields =>
    rw [← Option.some.inj h]
    have hfields : encodeItems d false (fields.map Prod.snd) =
        (encodeFields d false fields).map fun es => es.map Prod.snd := by
      clear h
      induction fields with
      | nil => rfl
      | cons e es ih =>
        rw [List.map_cons, encodeItems, encodeFields, ih]
        cases encode d false e.2 <;> cases encodeFields d false es <;> rfl
    simp [dumps, encode, hfields, Function.comp_def]
  | _ => cases h

/-! ### Comparing two encodings -/

variable (d' s' : Bool) (R : Json → Json → Prop)

/-- If the items encode a second way, related to the first, then so does the list. -/
theorem encodeItems_rel {items : List PyVal} {js : List Json}
    (ih : ∀ v ∈ items, ∀ j, encode d s v = some j → ∃ j', encode d' s' v = some j' ∧ R j j')
    (h : encodeItems d s items = some js) :
    ∃ js', encodeItems d' s' items = some js' ∧ List.Forall₂ R js js' := by
  induction items generalizing js with
  | nil => cases h; exact ⟨[], rfl, .nil⟩
  | cons v vs ihs =>
    obtain ⟨j, js, hj, hjs, rfl⟩ := encodeItems_cons_eq_some.mp h
    obtain ⟨j', hj', hR⟩ := ih v List.mem_cons_self j hj
    obtain ⟨js', hjs', hRs⟩ := ihs (fun w hw => ih w (List.mem_cons_of_mem _ hw)) hjs
    exact ⟨j' :: js', encodeItems_cons_eq_some.mpr ⟨j', js', hj', hjs', rfl⟩, .cons hR hRs⟩

/-- Two members with the same key and related values. -/
def EntryRel (R : Json → Json → Prop) (a b : String × Json) : Prop := a.1 = b.1 ∧ R a.2 b.2

theorem encodeEntries_rel {entries : List (PyKey × PyVal)} {js : List (String × Json)}
    (ih : ∀ e ∈ entries, ∀ j, encode d s e.2 = some j → ∃ j', encode d' s' e.2 = some j' ∧ R j j')
    (h : encodeEntries d s entries = some js) :
    ∃ js', encodeEntries d' s' entries = some js' ∧ List.Forall₂ (EntryRel R) js js' := by
  induction entries generalizing js with
  | nil => cases h; exact ⟨[], rfl, .nil⟩
  | cons e es ihs =>
    obtain ⟨k, j, js, hk, hj, hjs, rfl⟩ := encodeEntries_cons_eq_some.mp h
    obtain ⟨j', hj', hR⟩ := ih e List.mem_cons_self j hj
    obtain ⟨js', hjs', hRs⟩ := ihs (fun w hw => ih w (List.mem_cons_of_mem _ hw)) hjs
    exact ⟨(k, j') :: js', encodeEntries_cons_eq_some.mpr ⟨k, j', js', hk, hj', hjs', rfl⟩,
      .cons ⟨rfl, hR⟩ hRs⟩

theorem encodeFields_rel {fields : List (String × PyVal)} {js : List (String × Json)}
    (ih : ∀ e ∈ fields, ∀ j, encode d s e.2 = some j → ∃ j', encode d' s' e.2 = some j' ∧ R j j')
    (h : encodeFields d s fields = some js) :
    ∃ js', encodeFields d' s' fields = some js' ∧ List.Forall₂ (EntryRel R) js js' := by
  induction fields generalizing js with
  | nil => cases h; exact ⟨[], rfl, .nil⟩
  | cons e es ihs =>
    obtain ⟨j, js, hj, hjs, rfl⟩ := encodeFields_cons_eq_some.mp h
    obtain ⟨j', hj', hR⟩ := ih e List.mem_cons_self j hj
    obtain ⟨js', hjs', hRs⟩ := ihs (fun w hw => ih w (List.mem_cons_of_mem _ hw)) hjs
    exact ⟨(e.1, j') :: js', encodeFields_cons_eq_some.mpr ⟨j', js', hj', hjs', rfl⟩,
      .cons ⟨rfl, hR⟩ hRs⟩

theorem eq_of_forall₂ {js js' : List Json} (h : List.Forall₂ Eq js js') : js = js' := by
  rwa [List.forall₂_eq_eq_eq] at h

theorem eq_of_forall₂_entryRel {js js' : List (String × Json)}
    (h : List.Forall₂ (EntryRel Eq) js js') : js = js' := by
  induction h with
  | nil => rfl
  | cons hR _ ih => rw [Prod.ext hR.1 hR.2, ih]

/-- A default changes nothing where none is needed. -/
theorem encode_of_no_default {v : PyVal} {j : Json} (h : encode false s v = some j) :
    encode true s v = some j := by
  induction v using PyVal.memInduction generalizing s j with
  | none | bool | int | float | str => exact h
  | other text =>
    cases s with
    | false => cases h
    | true => exact h
  | list items ih | tuple items ih =>
    obtain ⟨js, hjs, rfl⟩ := Option.map_eq_some_iff.mp h
    obtain ⟨js', hjs', hR⟩ := encodeItems_rel true s Eq
      (fun v hv j hj => ⟨j, ih v hv hj, rfl⟩) hjs
    rw [encode, hjs', eq_of_forall₂ hR]
    rfl
  | set items ih =>
    cases s with
    | false => cases h
    | true =>
      obtain ⟨js, hjs, rfl⟩ := Option.map_eq_some_iff.mp h
      obtain ⟨js', hjs', hR⟩ := encodeItems_rel true false Eq
        (fun v hv j hj => ⟨j, ih v hv hj, rfl⟩) hjs
      exact Option.map_eq_some_iff.mpr ⟨js, eq_of_forall₂ hR ▸ hjs', rfl⟩
  | dict entries ih =>
    obtain ⟨js, hjs, rfl⟩ := Option.map_eq_some_iff.mp h
    obtain ⟨js', hjs', hR⟩ := encodeEntries_rel true s Eq
      (fun e he j hj => ⟨j, ih e he hj, rfl⟩) hjs
    rw [encode, hjs', eq_of_forall₂_entryRel hR]
    rfl
  | namedtuple fields ih =>
    have hfields (s : Bool) {js : List (String × Json)}
        (hjs : encodeFields false s fields = some js) : encodeFields true s fields = some js := by
      obtain ⟨js', hjs', hR⟩ := encodeFields_rel true s Eq
        (fun e he j hj => ⟨j, ih e he hj, rfl⟩) hjs
      rw [hjs', eq_of_forall₂_entryRel hR]
    cases s with
    | false | true =>
      obtain ⟨js, hjs, rfl⟩ := Option.map_eq_some_iff.mp h
      exact Option.map_eq_some_iff.mpr ⟨js, hfields _ hjs, rfl⟩
  | model dump ih =>
    cases s with
    | false => cases h
    | true => exact ih h
  | interrupt value id ihv ihi =>
    cases s with
    | false => cases h
    | true =>
      obtain ⟨a, b, ha, hb, rfl⟩ := (encode_interrupt_eq_some rfl).mp h
      exact (encode_interrupt_eq_some rfl).mpr ⟨a, b, ihv ha, ihi hb, rfl⟩

/-- The live data `a` against the stored data `b` of one value: named tuples are arrays in the one
and objects in the other, so a path of first items may only end earlier in `b`, and a path of
members only in `a`. -/
def Reads (k : String) (a b : Json) : Prop :=
  a.depthAt k ≤ b.depthAt k ∧ b.headDepth ≤ a.headDepth

theorem reads_refl (k : String) (a : Json) : Reads k a a := ⟨le_refl _, le_refl _⟩

/-- **From stored to live.** What can be encoded for storing can be encoded live, and the two
results differ by named tuples only. -/
theorem encode_live_of_stored (k : String) {v : PyVal} {b : Json}
    (h : encode false true v = some b) :
    ∃ a, encode true false v = some a ∧ Reads k a b := by
  induction v using PyVal.memInduction generalizing b with
  | none | bool | int | float | str | other => exact ⟨b, h, reads_refl k b⟩
  | list items ih | tuple items ih =>
    obtain ⟨js, hjs, rfl⟩ := Option.map_eq_some_iff.mp h
    obtain ⟨js', hjs', hR⟩ := encodeItems_rel true false (fun b a => Reads k a b)
      (fun v hv j hj => ih v hv hj) hjs
    refine ⟨.arr js', Option.map_eq_some_iff.mpr ⟨js', hjs', rfl⟩, le_refl 0, ?_⟩
    cases hR with
    | nil => exact le_refl 0
    | cons hR _ => exact Nat.succ_le_succ hR.2
  | set items =>
    obtain ⟨js, hjs, rfl⟩ := Option.map_eq_some_iff.mp h
    obtain ⟨js', hjs', hR⟩ := encodeItems_rel true false Eq
      (fun v _ j hj => ⟨j, encode_of_no_default hj, rfl⟩) hjs
    rw [← eq_of_forall₂ hR] at hjs'
    exact ⟨.arr js, Option.map_eq_some_iff.mpr ⟨js, hjs', rfl⟩, reads_refl k _⟩
  | dict entries ih =>
    obtain ⟨js, hjs, rfl⟩ := Option.map_eq_some_iff.mp h
    obtain ⟨js', hjs', hR⟩ := encodeEntries_rel true false (fun b a => Reads k a b)
      (fun e he j hj => ih e he hj) hjs
    refine ⟨.ofEntries js', Option.map_eq_some_iff.mpr ⟨js', hjs', rfl⟩, ?_, le_refl 0⟩
    exact Json.depthAtEntries_insertEntries_le k (hR.flip.imp fun a b h => ⟨h.1.symm, h.2.1⟩)
      (le_refl _)
  | namedtuple fields ih =>
    obtain ⟨js, hjs, rfl⟩ := Option.map_eq_some_iff.mp h
    obtain ⟨js', hjs', -⟩ := encodeFields_rel true false (fun b a => Reads k a b)
      (fun e he j hj => ih e he hj) hjs
    exact ⟨.arr (js'.map Prod.snd), Option.map_eq_some_iff.mpr ⟨js', hjs', rfl⟩,
      Nat.zero_le _, Nat.zero_le _⟩
  | model dump =>
    exact ⟨b, encode_of_no_default (s := false) (v := dump) h, reads_refl k b⟩
  | interrupt value id =>
    obtain ⟨x, y, hx, hy, rfl⟩ := (encode_interrupt_eq_some rfl).mp h
    exact ⟨_, (encode_interrupt_eq_some rfl).mpr
      ⟨x, y, encode_of_no_default hx, encode_of_no_default hy, rfl⟩, reads_refl k _⟩

end GeneralSerializer

end OpenLangGraph

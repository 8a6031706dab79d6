import OpenLangGraph.Services.EventStore

/-!
# Which values can be stored

An event is stored as JSON. `build_sse_event` serializes its payload first, and the JSONB type then
encodes what the serializer has made of it, without a default hook.

## Where the serializer stops

It goes on with the members of lists, tuples, dictionaries and named tuples, and with the value of
an `Interrupt`. What a `model_dump` or `dict` method returns, the items of a set and the id of an
`Interrupt` it hands out as they are. So a date in a list becomes a string, and a date in a set
stays a date, at which the encoder fails.

## What the database adds

PostgreSQL takes no document with the character NUL in it, and `NaN` and the infinities, which the
encoder writes as bare words, are no JSON to it.

## Main definitions

* `Plain` — `json.dumps` needs no default for the value
* `Storable` — nor for what the serializer makes of it
* `Clean`, `Json.clean` — no NUL and finite numbers only, in a value and in a document
* `StoresAsJson` — the value is serialized to JSON, and its row can be inserted

## Main results

* `isSome_dumps_serialize_iff` — which values the serializer makes JSON
* `clean_encode` — a document is as clean as its value
* `storesAsJson_iff` — which events can be stored
-/

namespace Json

/-- The character NUL does not occur. -/
def nulFree (s : String) : Bool := s.toList.all fun c => c.toNat ≠ 0

mutual

/-- What PostgreSQL takes as JSONB: no NUL, and no number but the finite ones. -/
def clean : Json → Bool
  | .null | .bool _ => true
  | .num x =>
    match x with
    | .finite _ => true
    | .nan | .inf _ => false
  | .str s => nulFree s
  | .arr items => cleanItems items
  | .obj entries => cleanEntries entries

def cleanItems : List Json → Bool
  | [] => true
  | j :: js => clean j && cleanItems js

def cleanEntries : List (String × Json) → Bool
  | [] => true
  | (k, j) :: es => nulFree k && clean j && cleanEntries es

end

theorem cleanItems_iff {items : List Json} :
    cleanItems items = true ↔ ∀ j ∈ items, j.clean = true := by
  induction items with
  | nil => simp [cleanItems]
  | cons j js ih => rw [cleanItems, Bool.and_eq_true, ih, List.forall_mem_cons]

theorem cleanEntries_iff {entries : List (String × Json)} :
    cleanEntries entries = true ↔ ∀ e ∈ entries, nulFree e.1 = true ∧ e.2.clean = true := by
  induction entries with
  | nil => simp [cleanEntries]
  | cons e es ih =>
    rw [cleanEntries, Bool.and_eq_true, Bool.and_eq_true, ih, List.forall_mem_cons]

/-- An object of members with different keys is clean if all of them are. -/
theorem clean_ofEntries {entries : List (String × Json)} (h : (entries.map Prod.fst).Nodup) :
    (ofEntries entries).clean = true ↔
      ∀ e ∈ entries, nulFree e.1 = true ∧ e.2.clean = true := by
  have hperm : (insertEntries [] entries).Perm entries := perm_insertEntries h
  rw [ofEntries, clean, cleanEntries_iff]
  exact forall_congr' fun e => by rw [hperm.mem_iff]

end Json

namespace OpenLangGraph

namespace GeneralSerializer

open PyVal Json

/-! ### The values -/

/-- The keys of a dictionary are strings, and different ones. The names of the fields of a named
tuple are identifiers. -/
def KeysOk : PyVal → Prop
  | .dict entries => (∀ e ∈ entries, ∃ s, e.1 = .str s) ∧ (entries.map Prod.fst).Nodup
  | .namedtuple fields => (∀ f ∈ fields, nulFree f.1 = true) ∧ (fields.map Prod.fst).Nodup
  | _ => True

/-- What the serializer is said to handle. -/
def Handled (v : PyVal) : Prop := Everywhere KeysOk v

/-- `json.dumps` needs no default, at any depth. -/
def Plain (v : PyVal) : Prop := Everywhere (fun w => ¬ NeedsDefault w) v

theorem plain_iff {v : PyVal} :
    Plain v ↔ ¬ NeedsDefault v ∧ ∀ m ∈ v.members, Plain m := everywhere_iff

/-- The members that the serializer goes on with. -/
def descended : PyVal → List PyVal
  | .list items | .tuple items => items
  | .dict entries => entries.map Prod.snd
  | .namedtuple fields => fields.map Prod.snd
  | .interrupt value _ => [value]
  | _ => []

/-- The members that the serializer hands out as they are. -/
def handedOut : PyVal → List PyVal
  | .set items => items
  | .model dump => [dump]
  | .interrupt _ id => [id]
  | _ => []

/-- Whatever the serializer hands out as it is needs no default. -/
inductive Storable : PyVal → Prop
  | intro {v : PyVal} (plain : ∀ m ∈ handedOut v, Plain m)
      (storable : ∀ m ∈ descended v, Storable m) : Storable v

theorem storable_iff {v : PyVal} :
    Storable v ↔ (∀ m ∈ handedOut v, Plain m) ∧ ∀ m ∈ descended v, Storable m :=
  ⟨fun ⟨hplain, hstorable⟩ => ⟨hplain, hstorable⟩, fun h => .intro h.1 h.2⟩

/-- The texts of the value itself have no NUL, and if it is a number, then it is finite. -/
def CleanSelf : PyVal → Prop
  | .str s | .other s => nulFree s = true
  | .float x => ∃ q, x = .finite q
  | .dict entries => ∀ e ∈ entries, ∀ s, e.1 = .str s → nulFree s = true
  | _ => True

/-- No NUL and no number but the finite ones, at any depth. -/
def Clean (v : PyVal) : Prop := Everywhere CleanSelf v

theorem clean_iff {v : PyVal} : Clean v ↔ CleanSelf v ∧ ∀ m ∈ v.members, Clean m := everywhere_iff

theorem clean_of_members_eq_nil {v : PyVal} (h : v.members = []) : Clean v ↔ CleanSelf v := by
  rw [clean_iff, h]
  exact and_iff_left (List.forall_mem_nil _)

/-! ### What can be encoded -/

variable {d s : Bool}

theorem isSome_encodeItems {items : List PyVal} :
    (encodeItems d s items).isSome = true ↔ ∀ v ∈ items, (encode d s v).isSome = true := by
  induction items with
  | nil => simp [encodeItems]
  | cons v vs ih =>
    rw [List.forall_mem_cons, ← ih, encodeItems]
    cases encode d s v <;> cases encodeItems d s vs <;> simp

theorem isSome_encodeFields {fields : List (String × PyVal)} :
    (encodeFields d s fields).isSome = true ↔
      ∀ v ∈ fields.map Prod.snd, (encode d s v).isSome = true := by
  induction fields with
  | nil => simp [encodeFields]
  | cons e es ih =>
    rw [List.map_cons, List.forall_mem_cons, ← ih, encodeFields]
    cases encode d s e.2 <;> cases encodeFields d s es <;> simp

theorem isSome_encodeEntries {entries : List (PyKey × PyVal)}
    (hkeys : ∀ e ∈ entries, ∃ t, e.1 = .str t) :
    (encodeEntries d s entries).isSome = true ↔
      ∀ v ∈ entries.map Prod.snd, (encode d s v).isSome = true := by
  induction entries with
  | nil => simp [encodeEntries]
  | cons e es ih =>
    obtain ⟨⟨t, ht⟩, hes⟩ := List.forall_mem_cons.mp hkeys
    rw [List.map_cons, List.forall_mem_cons, ← ih hes, encodeEntries, ht]
    cases encode d s e.2 <;> cases encodeEntries d s es <;> simp [jsonKey]

/-- `json.dumps(v)` succeeds exactly if no default is needed. -/
theorem isSome_dumps_iff {v : PyVal} (hv : Handled v) :
    (dumps false v).isSome = true ↔ Plain v := by
  rw [dumps]
  induction v using PyVal.memInduction with
  | none | bool | int | float | str =>
    exact iff_of_true rfl (plain_iff.mpr ⟨False.elim, List.forall_mem_nil _⟩)
  | set | model | interrupt | other =>
    exact iff_of_false Bool.false_ne_true fun h => h.self trivial
  | list items ih | tuple items ih =>
    rw [encode, Option.isSome_map, isSome_encodeItems, plain_iff]
    simp only [NeedsDefault, not_false_eq_true, true_and, members]
    exact forall₂_congr fun v hmem => ih v hmem (hv.member hmem)
  | dict entries ih =>
    rw [encode, Option.isSome_map, isSome_encodeEntries hv.self.1, plain_iff]
    simp only [NeedsDefault, not_false_eq_true, true_and, members]
    refine forall₂_congr fun v hmem => ?_
    obtain ⟨e, he, rfl⟩ := List.mem_map.mp hmem
    exact ih e he (hv.member hmem)
  | namedtuple fields ih =>
    rw [encode, if_neg Bool.false_ne_true, Option.isSome_map, isSome_encodeFields,
      plain_iff]
    simp only [NeedsDefault, not_false_eq_true, true_and, members]
    refine forall₂_congr fun v hmem => ?_
    obtain ⟨e, he, rfl⟩ := List.mem_map.mp hmem
    exact ih e he (hv.member hmem)

/-- **Which values are serialized to JSON.** -/
theorem isSome_dumps_serialize_iff {v : PyVal} (hv : Handled v) :
    (dumps false (serialize v)).isSome = true ↔ Storable v := by
  rw [dumps_serialize]
  induction v using PyVal.memInduction with
  | none | bool | int | float | str | other =>
    exact iff_of_true rfl (.intro (List.forall_mem_nil _) (List.forall_mem_nil _))
  | list items ih | tuple items ih =>
    rw [encode, Option.isSome_map, isSome_encodeItems, storable_iff]
    simp only [handedOut, descended, List.not_mem_nil, false_imp_iff, implies_true, true_and]
    exact forall₂_congr fun v hmem => ih v hmem (hv.member hmem)
  | set items =>
    rw [encode, Bool.or_true, if_pos rfl, Option.isSome_map, isSome_encodeItems, storable_iff]
    simp only [handedOut, descended, List.not_mem_nil, false_imp_iff, implies_true, and_true]
    exact forall₂_congr fun v hmem => isSome_dumps_iff (hv.member hmem)
  | dict entries ih =>
    rw [encode, Option.isSome_map, isSome_encodeEntries hv.self.1, storable_iff]
    simp only [handedOut, descended, List.not_mem_nil, false_imp_iff, implies_true, true_and]
    refine forall₂_congr fun v hmem => ?_
    obtain ⟨e, he, rfl⟩ := List.mem_map.mp hmem
    exact ih e he (hv.member hmem)
  | namedtuple fields ih =>
    rw [encode, if_pos rfl, Option.isSome_map, isSome_encodeFields, storable_iff]
    simp only [handedOut, descended, List.not_mem_nil, false_imp_iff, implies_true, true_and]
    refine forall₂_congr fun v hmem => ?_
    obtain ⟨e, he, rfl⟩ := List.mem_map.mp hmem
    exact ih e he (hv.member hmem)
  | model dump =>
    have hdump := isSome_dumps_iff (hv.member (List.mem_singleton_self dump))
    rw [dumps] at hdump
    rw [encode, Bool.or_true, if_pos rfl, storable_iff]
    simpa [handedOut, descended] using hdump
  | interrupt value id ihv _ =>
    have hvalue := ihv (hv.member List.mem_cons_self)
    have hid := isSome_dumps_iff (hv.member (List.mem_cons_of_mem _ (List.mem_singleton_self id)))
    rw [dumps] at hid
    rw [storable_iff]
    simp only [handedOut, descended, List.forall_mem_singleton, ← hvalue, ← hid, encode,
      Bool.or_true, if_true]
    cases encode false true value <;> cases encode false false id <;> simp

/-! ### What the database takes -/

theorem clean_encodeItems {items : List PyVal} {js : List Json}
    (ih : ∀ v ∈ items, ∀ j, encode d s v = some j → (j.clean = true ↔ Clean v))
    (h : encodeItems d s items = some js) :
    (∀ j ∈ js, j.clean = true) ↔ ∀ v ∈ items, Clean v := by
  induction items generalizing js with
  | nil => cases h; simp
  | cons v vs ihs =>
    obtain ⟨j, js, hj, hjs, rfl⟩ := encodeItems_cons_eq_some.mp h
    rw [List.forall_mem_cons, List.forall_mem_cons, ih v List.mem_cons_self j hj,
      ihs (fun w hw => ih w (List.mem_cons_of_mem _ hw)) hjs]

theorem clean_encodeFields {fields : List (String × PyVal)} {js : List (String × Json)}
    (ih : ∀ e ∈ fields, ∀ j, encode d s e.2 = some j → (j.clean = true ↔ Clean e.2))
    (h : encodeFields d s fields = some js) :
    js.map Prod.fst = fields.map Prod.fst ∧
      ((∀ e ∈ js, e.2.clean = true) ↔ ∀ v ∈ fields.map Prod.snd, Clean v) := by
  induction fields generalizing js with
  | nil => cases h; simp
  | cons e es ihs =>
    obtain ⟨j, js, hj, hjs, rfl⟩ := encodeFields_cons_eq_some.mp h
    obtain ⟨hnames, hclean⟩ := ihs (fun w hw => ih w (List.mem_cons_of_mem _ hw)) hjs
    refine ⟨by rw [List.map_cons, List.map_cons, hnames], ?_⟩
    rw [List.map_cons, List.forall_mem_cons, List.forall_mem_cons, ← hclean,
      ih e List.mem_cons_self j hj]

theorem clean_encodeEntries {entries : List (PyKey × PyVal)} {js : List (String × Json)}
    (hkeys : ∀ e ∈ entries, ∃ t, e.1 = .str t)
    (ih : ∀ e ∈ entries, ∀ j, encode d s e.2 = some j → (j.clean = true ↔ Clean e.2))
    (h : encodeEntries d s entries = some js) :
    entries.map Prod.fst = js.map (fun e => PyKey.str e.1) ∧
      ((∀ e ∈ js, e.2.clean = true) ↔ ∀ v ∈ entries.map Prod.snd, Clean v) := by
  induction entries generalizing js with
  | nil => cases h; simp
  | cons e es ihs =>
    obtain ⟨⟨t, ht⟩, hes⟩ := List.forall_mem_cons.mp hkeys
    obtain ⟨k, j, js, hk, hj, hjs, rfl⟩ := encodeEntries_cons_eq_some.mp h
    obtain ⟨hnames, hclean⟩ := ihs hes (fun w hw => ih w (List.mem_cons_of_mem _ hw)) hjs
    rw [ht] at hk
    obtain rfl : t = k := Option.some.inj hk
    refine ⟨by rw [List.map_cons, List.map_cons, hnames, ht], ?_⟩
    rw [List.map_cons, List.forall_mem_cons, List.forall_mem_cons, ← hclean,
      ih e List.mem_cons_self j hj]

theorem cleanSelf_dict_iff {entries : List (PyKey × PyVal)} {js : List (String × Json)}
    (hnames : entries.map Prod.fst = js.map fun e => PyKey.str e.1) :
    CleanSelf (.dict entries) ↔ ∀ e ∈ js, nulFree e.1 = true := by
  constructor
  · intro h e he
    have hmem : PyKey.str e.1 ∈ entries.map Prod.fst := by
      rw [hnames]
      exact List.mem_map_of_mem he
    obtain ⟨e', he', hkey⟩ := List.mem_map.mp hmem
    exact h e' he' e.1 hkey
  · intro h e he t ht
    have hmem : e.1 ∈ js.map fun e => PyKey.str e.1 := hnames ▸ List.mem_map_of_mem he
    obtain ⟨e', he', hkey⟩ := List.mem_map.mp hmem
    obtain rfl : e'.1 = t := PyKey.str.inj (hkey.trans ht)
    exact h e' he'

theorem nulFree_of_names {fields : List (String × PyVal)} {js : List (String × Json)}
    (hnames : js.map Prod.fst = fields.map Prod.fst)
    (hnul : ∀ e ∈ fields, nulFree e.1 = true) : ∀ e ∈ js, nulFree e.1 = true := by
  intro e he
  have hname : e.1 ∈ fields.map Prod.fst := hnames ▸ List.mem_map_of_mem he
  obtain ⟨f, hf, hfe⟩ := List.mem_map.mp hname
  exact hfe ▸ hnul f hf

/-- **A document is as clean as its value.** -/
theorem clean_encode {v : PyVal} (hv : Handled v) {j : Json} (h : encode d s v = some j) :
    j.clean = true ↔ Clean v := by
  induction v using PyVal.memInduction generalizing s j with
  | none | bool | int =>
    cases h
    exact iff_of_true rfl ((clean_of_members_eq_nil rfl).mpr trivial)
  | float x =>
    cases h
    rw [clean_of_members_eq_nil rfl]
    cases x <;> simp [Json.clean, CleanSelf]
  | str t =>
    cases h
    exact (clean_of_members_eq_nil (v := .str t) rfl).symm
  | other text =>
    simp only [encode, ite_eq_iff, Option.some.injEq, reduceCtorEq, and_false, or_false] at h
    rw [← h.2]
    exact (clean_of_members_eq_nil (v := .other text) rfl).symm
  | list items ih | tuple items ih =>
    obtain ⟨js, hjs, rfl⟩ := Option.map_eq_some_iff.mp h
    rw [Json.clean, cleanItems_iff, clean_iff,
      clean_encodeItems (fun v hmem j hj => ih v hmem (hv.member hmem) hj) hjs]
    exact (and_iff_right trivial).symm
  | set items ih =>
    simp only [encode] at h
    split at h
    · obtain ⟨js, hjs, rfl⟩ := Option.map_eq_some_iff.mp h
      rw [Json.clean, cleanItems_iff, clean_iff,
        clean_encodeItems (fun v hmem j hj => ih v hmem (hv.member hmem) hj) hjs]
      exact (and_iff_right trivial).symm
    · cases h
  | dict entries ih =>
    obtain ⟨js, hjs, rfl⟩ := Option.map_eq_some_iff.mp h
    obtain ⟨hstr, hnodup⟩ := hv.self
    obtain ⟨hnames, hclean⟩ := clean_encodeEntries hstr
      (fun e he j hj => ih e he (hv.member (List.mem_map_of_mem he)) hj) hjs
    have hkeys : (js.map Prod.fst).Nodup := by
      rw [hnames] at hnodup
      refine List.Nodup.of_map PyKey.str ?_
      simpa [Function.comp_def] using hnodup
    rw [clean_ofEntries hkeys, clean_iff, cleanSelf_dict_iff hnames]
    simp only [members, ← hclean]
    exact ⟨fun h => ⟨fun e he => (h e he).1, fun e he => (h e he).2⟩,
      fun h e he => ⟨h.1 e he, h.2 e he⟩⟩
  | namedtuple fields ih =>
    have hmembers (s : Bool) {js : List (String × Json)}
        (hjs : encodeFields d s fields = some js) := clean_encodeFields
          (fun e he j hj => ih e he (hv.member (List.mem_map_of_mem he)) hj) hjs
    obtain ⟨hnul, hnodup⟩ := hv.self
    simp only [encode] at h
    split at h
    · obtain ⟨js, hjs, rfl⟩ := Option.map_eq_some_iff.mp h
      obtain ⟨hnames, hclean⟩ := hmembers true hjs
      have hnul' := nulFree_of_names hnames hnul
      rw [clean_ofEntries (hnames ▸ hnodup), clean_iff]
      simp only [members, ← hclean]
      exact ⟨fun h => ⟨trivial, fun e he => (h e he).2⟩, fun h e he => ⟨hnul' e he, h.2 e he⟩⟩
    · obtain ⟨js, hjs, rfl⟩ := Option.map_eq_some_iff.mp h
      obtain ⟨-, hclean⟩ := hmembers false hjs
      rw [Json.clean, cleanItems_iff, List.forall_mem_map, clean_iff]
      simp only [members, ← hclean]
      exact (and_iff_right trivial).symm
  | model dump ih =>
    simp only [encode] at h
    split at h
    · rw [ih (hv.member (List.mem_singleton_self dump)) h, clean_iff (v := .model dump)]
      exact ⟨fun hdump => ⟨trivial, List.forall_mem_singleton.mpr hdump⟩,
        fun hclean => List.forall_mem_singleton.mp hclean.2⟩
    · cases h
  | interrupt value id ihv ihi =>
    cases hds : d || s with
    | false => simp [encode, hds] at h
    | true =>
      obtain ⟨a, b, ha, hb, rfl⟩ := (encode_interrupt_eq_some hds).mp h
      have hvalue := ihv (hv.member List.mem_cons_self) ha
      have hid := ihi (hv.member (List.mem_cons_of_mem _ (List.mem_singleton_self id))) hb
      have hnames : nulFree "value" = true ∧ nulFree "id" = true := by decide
      rw [clean_ofEntries (by simp), clean_iff]
      simp [CleanSelf, members, hvalue, hid, hnames]

end GeneralSerializer

namespace EventStore

open GeneralSerializer PyString

/-- The payload is serialized to JSON, and an event that is built of it can be inserted. -/
structure StoresAsJson (U : UnicodeDb) (jsonb : Jsonb) (payload : PyVal) : Prop where
  json : (dumps false (serialize payload)).isSome = true
  insert : ∀ table eventId eventType,
    (storeEvents U jsonb table [buildSseEvent eventId eventType payload]).isSome = true

theorem isSome_storeEvents_singleton (U : UnicodeDb) (jsonb : Jsonb) (table : List Row)
    (event : SSEEvent) :
    (storeEvents U jsonb table [event]).isSome = true ↔
      ∃ data, dumps false event.data = some data ∧ jsonb.accepts data = true := by
  rw [storeEvents, Option.isSome_map, List.mapM_cons, List.mapM_nil, buildInsertRow]
  cases dumps false event.data with
  | none => simp
  | some data => cases hacc : jsonb.accepts data <;> simp [hacc]

/-- **Which events can be stored.** For a payload of what the serializer handles, exactly if the
serializer hands out nothing that needs a default, and all texts and numbers are ones that the
database knows. -/
theorem storesAsJson_iff {U : UnicodeDb} {jsonb : Jsonb} {payload : PyVal}
    (hjsonb : ∀ data, jsonb.accepts data = data.clean) (hpayload : Handled payload) :
    StoresAsJson U jsonb payload ↔ Storable payload ∧ Clean payload := by
  have hjson := isSome_dumps_serialize_iff hpayload
  have hinsert (table : List Row) (eventId : Str) (eventType : String) :
      (storeEvents U jsonb table [buildSseEvent eventId eventType payload]).isSome = true ↔
        ∃ data, dumps false (serialize payload) = some data ∧ data.clean = true := by
    rw [isSome_storeEvents_singleton, buildSseEvent]
    simp only [hjsonb]
  have hclean {data : Json} (hdata : dumps false (serialize payload) = some data) :
      data.clean = true ↔ Clean payload :=
    clean_encode hpayload ((dumps_serialize payload).symm.trans hdata)
  constructor
  · intro h
    obtain ⟨data, hdata, hc⟩ := (hinsert [] [] "").mp (h.insert [] [] "")
    exact ⟨hjson.mp h.json, (hclean hdata).mp hc⟩
  · rintro ⟨hstorable, hc⟩
    have hsome := hjson.mpr hstorable
    obtain ⟨data, hdata⟩ := Option.isSome_iff_exists.mp hsome
    exact ⟨hsome, fun table eventId eventType =>
      (hinsert table eventId eventType).mpr ⟨data, hdata, (hclean hdata).mpr hc⟩⟩

/-- A date in a list, under a key. -/
def listedDate : PyVal := .dict [(.str "at", .list [.other "2024-01-01"])]

/-- The same date in a set. -/
def dateInSet : PyVal := .dict [(.str "at", .set [.other "2024-01-01"])]

/-- A date in a list is stored as its text. -/
theorem storesAsJson_date : StoresAsJson .ascii ⟨Json.clean⟩ listedDate := by
  have hdate {P : PyVal → Prop} (h : P (.other "2024-01-01")) :
      PyVal.Everywhere P (.other "2024-01-01") := .intro h (List.forall_mem_nil _)
  have heverywhere {P : PyVal → Prop} (hself : P listedDate)
      (hlist : P (.list [.other "2024-01-01"])) (h : P (.other "2024-01-01")) :
      PyVal.Everywhere P listedDate :=
    .intro hself (List.forall_mem_singleton.mpr
      (.intro hlist (List.forall_mem_singleton.mpr (hdate h))))
  refine (storesAsJson_iff (fun _ => rfl) ?_).mpr ⟨?_, ?_⟩
  · exact heverywhere ⟨List.forall_mem_singleton.mpr ⟨"at", rfl⟩, by decide⟩ trivial trivial
  · have hleaf : Storable (.other "2024-01-01") :=
      .intro (List.forall_mem_nil _) (List.forall_mem_nil _)
    have hlist : Storable (.list [.other "2024-01-01"]) :=
      .intro (List.forall_mem_nil _) (List.forall_mem_singleton.mpr hleaf)
    exact .intro (List.forall_mem_nil _) (List.forall_mem_singleton.mpr hlist)
  · have htext : Json.nulFree "2024-01-01" = true := by decide
    refine heverywhere (List.forall_mem_singleton.mpr fun s hs => ?_) trivial htext
    obtain rfl := PyKey.str.inj hs
    decide

/-- A date in a set is left as it is, and no JSON is made of it. -/
theorem date_in_set :
    ¬ ∀ (U : UnicodeDb) (jsonb : Jsonb) (payload : PyVal),
      (∀ data, jsonb.accepts data = data.clean) → Handled payload →
        StoresAsJson U jsonb payload := by
  intro h
  have hhandled : Handled dateInSet :=
    .intro ⟨List.forall_mem_singleton.mpr ⟨"at", rfl⟩, by decide⟩ (List.forall_mem_singleton.mpr
      (.intro trivial (List.forall_mem_singleton.mpr (.intro trivial (List.forall_mem_nil _)))))
  have hjson := (h .ascii ⟨Json.clean⟩ dateInSet (fun _ => rfl) hhandled).json
  exact absurd hjson (by decide)

end EventStore

end OpenLangGraph

import OpenLangGraph.Services.EventConverter
import Mathlib.Data.List.Sort

/-!
# The event store

The model of `services/event_store.py` and of the event ids of `utils/sse_utils.py`: the events
of one run as rows of `run_events`, and the queries a replay makes.

## Event ids

An event id is `{run_id}_event_{sequence}`. Three places read the sequence number back: the
consumer and the insert fall back to 0, the replay query falls back to -1. A run id is a UUID, so
it contains no underscore; `RunId` carries this, and with it the number read back is the number
put in.

## Scope

JSONB rejects some documents that the encoder writes, such as one with a NUL character or a NaN.
Which ones is a parameter, `Jsonb.accepts`; a document it accepts is returned as the same data.

## Main definitions

* `generateEventId`, `extractEventSequence`
* `Row`, `storeEvents`, `streamEventsSince`, `streamAllEvents`

## Main results

* `extractEventSequence_generateEventId` — an id carries its sequence number
-/

open PyString

namespace OpenLangGraph

/-- The id of a run: a UUID in its usual spelling, or any other text without underscores. -/
structure RunId where
  text : Str
  noUnderscore : '_' ∉ text
deriving DecidableEq

/-- What the JSONB type does with a document. -/
structure Jsonb where
  accepts : Json → Bool

/-! ### Event ids -/

/-- `generate_event_id` -/
def generateEventId (runId : RunId) (sequence : ℕ) : Str :=
  runId.text ++ "_event_".toList ++ decimalRepr sequence

/-- `int(event_id.split("_event_")[-1])`, `none` being `ValueError`. -/
def parseEventSequence (U : UnicodeDb) (eventId : Str) : Option ℤ :=
  (splitSub "_event_".toList eventId).getLast?.bind U.int

/-- `extract_event_sequence`, and `_extract_event_seq` of the store. -/
def extractEventSequence (U : UnicodeDb) (eventId : Str) : ℤ :=
  (parseEventSequence U eventId).getD 0

/-- An id carries its sequence number. -/
theorem parseEventSequence_generateEventId (U : UnicodeDb) (runId : RunId) (n : ℕ) :
    parseEventSequence U (generateEventId runId n) = some (n : ℤ) := by
  have hsplit : splitSub "_event_".toList (generateEventId runId n) =
      [runId.text, decimalRepr n] :=
    splitSub_append runId.noUnderscore (underscore_notMem_decimalRepr n)
  rw [parseEventSequence, hsplit]
  exact U.int_decimalRepr n

@[simp] theorem extractEventSequence_generateEventId (U : UnicodeDb) (runId : RunId) (n : ℕ) :
    extractEventSequence U (generateEventId runId n) = n := by
  rw [extractEventSequence, parseEventSequence_generateEventId, Option.getD_some]

theorem generateEventId_ne_nil (runId : RunId) (n : ℕ) : generateEventId runId n ≠ [] := by
  simp [generateEventId]

namespace EventStore

/-- `SSEEvent`, less its timestamp. -/
structure SSEEvent where
  id : Str
  event : String
  /-- Serialized, but not yet encoded. -/
  data : PyVal

/-- `build_sse_event`. The serializer does not raise on the values represented here. -/
def buildSseEvent (eventId : Str) (eventType : String) (data : PyVal) : SSEEvent :=
  { id := eventId, event := eventType, data := GeneralSerializer.serialize data }

/-- A row of `run_events`. -/
structure Row where
  id : Str
  seq : ℤ
  event : String
  data : Json

/-- One row of `_build_insert_rows`, with its data bound as JSONB; `none` if it cannot be. -/
def buildInsertRow (U : UnicodeDb) (jsonb : Jsonb) (event : SSEEvent) : Option Row := do
  let data ← GeneralSerializer.dumps false event.data
  if jsonb.accepts data then
    some { id := event.id, seq := extractEventSequence U event.id, event := event.event, data }
  else none

/-- `INSERT … ON CONFLICT (id) DO NOTHING` -/
def insertRow (table : List Row) (row : Row) : List Row :=
  if table.any (·.id = row.id) then table else table ++ [row]

/-- `store_events`, with the rows in the order of insertion. The batch is one transaction: `none`
is an exception, and then nothing is stored. -/
def storeEvents (U : UnicodeDb) (jsonb : Jsonb) (table : List Row) (events : List SSEEvent) :
    Option (List Row) :=
  (events.mapM (buildInsertRow U jsonb)).map fun rows => rows.foldl insertRow table

/-- `ORDER BY seq ASC` -/
def orderBySeq (rows : List Row) : List Row := rows.insertionSort fun a b => a.seq ≤ b.seq

/-- The rows of `stream_events_since`. -/
def streamEventsSince (U : UnicodeDb) (table : List Row) (lastEventId : Str) : List Row :=
  let lastSeq := (parseEventSequence U lastEventId).getD (-1)
  orderBySeq (table.filter fun row => lastSeq < row.seq)

/-- The rows of `stream_all_events`. -/
def streamAllEvents (table : List Row) : List Row := orderBySeq table

/-- The event that a replay reads from a row. -/
def Row.stored (row : Row) : StoredEvent :=
  { id := row.id, event := row.event, data := PyVal.ofJson row.data }

/-! ### What an insert does -/

variable {U : UnicodeDb} {jsonb : Jsonb}

theorem buildInsertRow_eq_some {event : SSEEvent} {row : Row}
    (h : buildInsertRow U jsonb event = some row) :
    row.id = event.id ∧ row.seq = extractEventSequence U event.id ∧ row.event = event.event ∧
      GeneralSerializer.dumps false event.data = some row.data ∧
        jsonb.accepts row.data = true := by
  obtain ⟨data, hdata, h⟩ := Option.bind_eq_some_iff.mp h
  split at h
  · rename_i hacc
    cases h
    exact ⟨rfl, rfl, rfl, hdata, hacc⟩
  · cases h

theorem mapM_eq_some {α β : Type} {f : α → Option β} {as : List α} {bs : List β}
    (h : as.mapM f = some bs) : List.Forall₂ (fun a b => f a = some b) as bs := by
  induction as generalizing bs with
  | nil =>
    cases h
    exact .nil
  | cons a as ih =>
    rw [List.mapM_cons] at h
    obtain ⟨b, hb, h⟩ := Option.bind_eq_some_iff.mp h
    obtain ⟨bs', hbs, h⟩ := Option.bind_eq_some_iff.mp h
    cases h
    exact .cons hb (ih hbs)

theorem exists_of_mem_forall₂ {α β : Type} {R : α → β → Prop} {as : List α} {bs : List β}
    (h : List.Forall₂ R as bs) {b : β} (hb : b ∈ bs) : ∃ a ∈ as, R a b := by
  induction h with
  | nil => cases hb
  | @cons a _ _ _ hR _ ih =>
    rcases List.mem_cons.mp hb with rfl | hb
    · exact ⟨a, List.mem_cons_self, hR⟩
    · obtain ⟨a', ha', hR'⟩ := ih hb
      exact ⟨a', List.mem_cons_of_mem _ ha', hR'⟩

/-- Rows with ids that the table does not have are appended. -/
theorem foldl_insertRow {table rows : List Row}
    (h : (table ++ rows).Pairwise fun a b => a.id ≠ b.id) :
    rows.foldl insertRow table = table ++ rows := by
  induction rows generalizing table with
  | nil => simp
  | cons row rows ih =>
    have hfresh : table.any (fun r => r.id = row.id) = false := by
      rw [List.any_eq_false]
      intro r hr
      simpa using (List.pairwise_append.mp h).2.2 r hr row List.mem_cons_self
    rw [List.foldl_cons, insertRow, hfresh]
    rw [if_neg (by simp), ih (by simpa using h)]
    simp

theorem mem_foldl_insertRow {table rows : List Row} {row : Row}
    (h : row ∈ rows.foldl insertRow table) : row ∈ table ∨ row ∈ rows := by
  induction rows generalizing table with
  | nil => exact .inl h
  | cons r rows ih =>
    rcases ih h with h | h
    · rw [insertRow] at h
      split at h
      · exact .inl h
      · exact (List.mem_append.mp h).imp_right fun h => by simp [List.mem_singleton.mp h]
    · exact .inr (List.mem_cons_of_mem _ h)

/-- A row of the table after an insert was there before, or is the row of an event inserted. -/
theorem mem_storeEvents {table table' : List Row} {events : List SSEEvent} {row : Row}
    (h : storeEvents U jsonb table events = some table') (hrow : row ∈ table') :
    row ∈ table ∨ ∃ event ∈ events, buildInsertRow U jsonb event = some row := by
  obtain ⟨rows, hrows, rfl⟩ := Option.map_eq_some_iff.mp h
  exact (mem_foldl_insertRow hrow).imp_right (exists_of_mem_forall₂ (mapM_eq_some hrows))

theorem map_seq_of_built {events : List SSEEvent} {rows : List Row}
    (h : List.Forall₂ (fun e r => buildInsertRow U jsonb e = some r) events rows) :
    rows.map Row.seq = events.map fun e => extractEventSequence U e.id := by
  induction h with
  | nil => rfl
  | cons hrow _ ih => rw [List.map_cons, List.map_cons, (buildInsertRow_eq_some hrow).2.1, ih]

/-- A batch of new events is appended to the table, row for row. -/
theorem storeEvents_eq_some {table table' : List Row} {events : List SSEEvent}
    (hseq : ∀ r ∈ table, r.seq = extractEventSequence U r.id)
    (hsorted : (table.map Row.seq ++ events.map fun e => extractEventSequence U e.id).Pairwise
      (· < ·))
    (h : storeEvents U jsonb table events = some table') :
    ∃ rows, List.Forall₂ (fun e r => buildInsertRow U jsonb e = some r) events rows ∧
      table' = table ++ rows := by
  obtain ⟨rows, hrows, rfl⟩ := Option.map_eq_some_iff.mp h
  have hbuilt := mapM_eq_some hrows
  refine ⟨rows, hbuilt, foldl_insertRow ?_⟩
  have hseqs := map_seq_of_built hbuilt
  have hrow : ∀ r ∈ table ++ rows, r.seq = extractEventSequence U r.id := by
    intro r hr
    rcases List.mem_append.mp hr with hr | hr
    · exact hseq r hr
    · obtain ⟨e, -, he⟩ := exists_of_mem_forall₂ hbuilt hr
      rw [(buildInsertRow_eq_some he).1, (buildInsertRow_eq_some he).2.1]
  rw [← hseqs, ← List.map_append, List.pairwise_map] at hsorted
  refine hsorted.imp_of_mem fun {a b} ha hb hlt hid => ?_
  rw [hrow a ha, hrow b hb, hid] at hlt
  exact lt_irrefl _ hlt

end EventStore

end OpenLangGraph

import OpenLangGraph.Core.Orm
import OpenLangGraph.Foundation.PyJson

/-!
# Threads by their metadata

`search_threads` and `count_threads` of `api/threads.py`. For every key of the filter they compare
`metadata ->> key`, a text that the database makes, with `str(value)`, one that Python makes. The
database says `true` where Python says `True`, and a text does not tell the number `1` from the
string `"1"`. So a truth value that was stored is not found, and a string is found in place of a
number.

## What is right

Both endpoints build the same conditions, so the count is that of the threads found, on all pages.
A filter finds what was stored if its values print alike. It finds something else where a string and
a value that is none have one text.

## Scope

A filter is a JSON object. Its values are compared as JSONB numbers, strings and so on; when two of
them are the same value is said by `Jsonb.value`, in which `1` and `1.0` are one number. Threads of
one time of creation come in the order of the table.

## Main definitions

* `searchThreads`, `countThreads` — the endpoints
* `Holds`, `Differs` — what a filter asks for
* `FiltersRight` — the threads that are found and counted

## Main results

* `exists_page_iff` — a thread is on a page if it meets the conditions
* `countThreads_eq` — the two endpoints agree
* `filters_right_iff` — when the filter finds what was stored, and nothing else
-/

namespace OpenLangGraph

namespace ThreadSearch

open PyString

/-! ### The table -/

/-- `thread.status` as the column spells it. -/
def statusValue : ThreadStatus → String
  | .idle => "idle"
  | .busy => "busy"
  | .interrupted => "interrupted"

/-- A row of `thread`, with the columns that the endpoints read, and the metadata as the database
keeps them. -/
structure ThreadRow where
  thread : Thread
  createdAt : ℕ
  metadata : List (String × Jsonb)
  canonical : (Jsonb.obj metadata).Canonical
  metadata_value : thread.metadataJson = Jsonb.valueEntries metadata

/-- A `SELECT` of the rows that meet all conditions. -/
def select (rows : List ThreadRow) (conditions : List (ThreadRow → Bool)) : List ThreadRow :=
  rows.filter fun row => conditions.all fun condition => condition row

/-! ### The endpoints -/

/-- A request whose fields are valid. -/
structure ThreadSearchRequest where
  metadata : Option (List (String × PyJson))
  status : Option String
  limit : Option ℕ
  offset : Option ℕ
  limit_bounds : ∀ n ∈ limit, 1 ≤ n ∧ n ≤ 100

structure ThreadCountRequest where
  metadata : Option (List (String × PyJson))
  status : Option String

section

variable (isprintable : Char → Bool) (user : User)

def accessible (row : ThreadRow) : Bool :=
  buildThreadAccessFilter user.identity user.orgId row.thread

/-- `if request.status:` -/
def statusConditions (status : Option String) : List (ThreadRow → Bool) :=
  match status with
  | none => []
  | some status => if status = "" then [] else [fun row => statusValue row.thread.status = status]

/-- `ThreadORM.metadata_json[key].as_string() == str(value)` -/
def metadataCondition (e : String × PyJson) (row : ThreadRow) : Bool :=
  decide ((row.metadata.lookup e.1).bind Jsonb.asString = some (e.2.pyStr isprintable))

/-- `if request.metadata:` -/
def metadataConditions (metadata : Option (List (String × PyJson))) : List (ThreadRow → Bool) :=
  (metadata.getD []).map (metadataCondition isprintable)

/-- The statement of `search_threads`, before the pages are cut: the newest threads come first. -/
def searchStatement (rows : List ThreadRow) (request : ThreadSearchRequest) : List ThreadRow :=
  (select rows ([accessible user] ++ statusConditions request.status ++
    metadataConditions isprintable request.metadata)).insertionSort
      fun a b => b.createdAt ≤ a.createdAt

/-- `limit or 20` -/
def pageLimit (limit : Option ℕ) : ℕ :=
  match limit with
  | none => 20
  | some limit => if limit = 0 then 20 else limit

/-- `search_threads` -/
def searchThreads (rows : List ThreadRow) (request : ThreadSearchRequest) : List ThreadRow :=
  ((searchStatement isprintable user rows request).drop (request.offset.getD 0)).take
    (pageLimit request.limit)

/-- `count_threads` -/
def countThreads (rows : List ThreadRow) (request : Option ThreadCountRequest) : ℕ :=
  match request with
  | none => (select rows [accessible user]).length
  | some request => (select rows ([accessible user] ++ statusConditions request.status ++
      metadataConditions isprintable request.metadata)).length

end

/-- The request for the number of the threads that a search finds. -/
def ThreadSearchRequest.counted (request : ThreadSearchRequest) : ThreadCountRequest :=
  ⟨request.metadata, request.status⟩

/-- The members of the filter. -/
def ThreadSearchRequest.filter (request : ThreadSearchRequest) : List (String × PyJson) :=
  request.metadata.getD []

/-! ### What a filter asks for -/

/-- The filter is a part of the metadata of the thread. -/
def Holds (filter : List (String × PyJson)) (row : ThreadRow) : Prop :=
  ∀ e ∈ filter, row.metadata.lookup e.1 = some e.2.stored

/-- A key of the filter has another value in the metadata, or is not there. -/
def Differs (filter : List (String × PyJson)) (row : ThreadRow) : Prop :=
  ∃ e ∈ filter, (row.metadata.lookup e.1).map Jsonb.value ≠ some e.2.stored.value

/-- **The filter finds what was stored**: the threads of the user and the status of which it is a
part, and none in which a key has another value. The count is that of the threads found. -/
structure FiltersRight (isprintable : Char → Bool) (user : User) (rows : List ThreadRow)
    (request : ThreadSearchRequest) : Prop where
  found : ∀ row ∈ rows, accessible user row = true →
    (∀ condition ∈ statusConditions request.status, condition row = true) →
    Holds request.filter row → ∃ offset,
      row ∈ searchThreads isprintable user rows { request with offset := some offset }
  told_apart : ∀ row ∈ rows, Differs request.filter row → ∀ offset,
    row ∉ searchThreads isprintable user rows { request with offset := some offset }
  counted : countThreads isprintable user rows (some request.counted) =
    (searchStatement isprintable user rows request).length

/-- The thread has a key with another text than the filter: it is not there, or its value is not
mistaken for that of the filter, and does not print like it. -/
def ToldApart (isprintable : Char → Bool) (filter : List (String × PyJson)) (row : ThreadRow) :
    Prop :=
  ∃ e ∈ filter, ∀ j ∈ row.metadata.lookup e.1,
    ¬(j = e.2.stored ∧ e.2.printsAlike isprintable = true) ∧
      mistaken isprintable j e.2 = false

/-! ### Pages -/

variable {isprintable : Char → Bool} {user : User} {rows : List ThreadRow} {row : ThreadRow}
  {request : ThreadSearchRequest}

theorem pageLimit_pos (limit : Option ℕ) : 0 < pageLimit limit := by
  cases limit with
  | none => exact Nat.zero_lt_succ _
  | some limit =>
    rw [pageLimit]
    split
    · exact Nat.zero_lt_succ _
    · exact Nat.pos_of_ne_zero (by assumption)

/-- **Pages**: a thread is on one of the pages if the statement selects it. -/
theorem exists_page_iff : row ∈ searchStatement isprintable user rows request ↔
    ∃ offset, row ∈ searchThreads isprintable user rows { request with offset := some offset } := by
  constructor
  · intro h
    obtain ⟨i, hi, rfl⟩ := List.mem_iff_getElem.mp h
    refine ⟨i, ?_⟩
    show _ ∈ ((searchStatement isprintable user rows request).drop i).take (pageLimit request.limit)
    obtain ⟨n, hn⟩ := Nat.exists_eq_succ_of_ne_zero (pageLimit_pos request.limit).ne'
    rw [List.drop_eq_getElem_cons hi, hn, List.take_succ_cons]
    exact List.mem_cons_self
  · rintro ⟨offset, h⟩
    exact List.mem_of_mem_drop (List.mem_of_mem_take h)

theorem mem_select {conditions : List (ThreadRow → Bool)} : row ∈ select rows conditions ↔
    row ∈ rows ∧ ∀ condition ∈ conditions, condition row = true := by
  rw [select, List.mem_filter, List.all_eq_true]

theorem mem_searchStatement : row ∈ searchStatement isprintable user rows request ↔
    row ∈ rows ∧ accessible user row = true ∧
      (∀ condition ∈ statusConditions request.status, condition row = true) ∧
      ∀ e ∈ request.filter, metadataCondition isprintable e row = true := by
  rw [searchStatement, List.mem_insertionSort, mem_select, List.forall_mem_append,
    List.forall_mem_append, List.forall_mem_singleton, metadataConditions, List.forall_mem_map,
    and_assoc]
  rfl

/-- **The count** is that of the threads that the search finds. -/
theorem countThreads_eq : countThreads isprintable user rows (some request.counted) =
    (searchStatement isprintable user rows request).length := by
  rw [searchStatement, List.length_insertionSort]
  rfl

/-! ### Texts -/

theorem canonical_of_lookup {key : String} {j : Jsonb} (h : row.metadata.lookup key = some j) :
    j.Canonical := by
  obtain ⟨before, after, hmetadata, -⟩ := List.lookup_eq_some_iff.mp h
  cases row.canonical with
  | obj _ hmembers =>
    refine hmembers (key, j) ?_
    rw [hmetadata]
    exact List.mem_append_right _ List.mem_cons_self

/-- The condition on a key: the member prints like the value, or is mistaken for it. -/
theorem metadataCondition_iff (e : String × PyJson) : metadataCondition isprintable e row = true ↔
    ∃ j ∈ row.metadata.lookup e.1, (j = e.2.stored ∧ e.2.printsAlike isprintable = true) ∨
      mistaken isprintable j e.2 = true := by
  rw [metadataCondition, decide_eq_true_eq]
  cases hlookup : row.metadata.lookup e.1 with
  | none =>
    refine iff_of_false (fun h => by cases h) ?_
    rintro ⟨j, hj, -⟩
    cases hj
  | some j =>
    rw [Option.bind_some, asString_eq_pyStr_iff (canonical_of_lookup hlookup)]
    exact ⟨fun h => ⟨j, rfl, h⟩, fun ⟨j', hj', h⟩ => Option.some.inj hj' ▸ h⟩

/-- A part of the metadata is found if its values print alike. -/
theorem forall_metadataCondition_iff_of_holds {filter : List (String × PyJson)}
    (h : Holds filter row) : (∀ e ∈ filter, metadataCondition isprintable e row = true) ↔
      ∀ e ∈ filter, e.2.printsAlike isprintable = true := by
  refine forall₂_congr fun e he => ?_
  rw [metadataCondition, h e he, decide_eq_true_eq, Option.bind_some, asString_stored_iff]

theorem not_forall_metadataCondition_iff {filter : List (String × PyJson)} :
    ¬(∀ e ∈ filter, metadataCondition isprintable e row = true) ↔
      ToldApart isprintable filter row := by
  rw [ToldApart]
  simp only [not_forall, exists_prop]
  refine exists_congr fun e => and_congr_right fun _ => ?_
  rw [metadataCondition_iff]
  simp only [not_exists, not_and, not_or, Bool.not_eq_true]

/-- **When the filter finds what was stored**: in every thread that the user sees, of which it is a
part, its values print alike; and every other thread, in which a key differs, is told apart by a
key. -/
theorem filters_right_iff (isprintable : Char → Bool) (user : User) (rows : List ThreadRow)
    (request : ThreadSearchRequest) :
    FiltersRight isprintable user rows request ↔
      ∀ row ∈ rows, accessible user row = true →
        (∀ condition ∈ statusConditions request.status, condition row = true) →
        (Holds request.filter row → ∀ e ∈ request.filter, e.2.printsAlike isprintable = true) ∧
        (Differs request.filter row → ToldApart isprintable request.filter row) := by
  constructor
  · intro h row hrow haccess hstatus
    constructor
    · intro hholds
      have hfound := exists_page_iff.mpr (h.found row hrow haccess hstatus hholds)
      obtain ⟨-, -, -, hfilter⟩ := mem_searchStatement.mp hfound
      exact (forall_metadataCondition_iff_of_holds hholds).mp hfilter
    · intro hdiffers
      rw [← not_forall_metadataCondition_iff]
      intro hfilter
      obtain ⟨offset, hpage⟩ := exists_page_iff.mp
        (mem_searchStatement.mpr ⟨hrow, haccess, hstatus, hfilter⟩)
      exact h.told_apart row hrow hdiffers offset hpage
  · intro h
    refine ⟨fun row hrow haccess hstatus hholds => ?_, fun row hrow hdiffers offset hpage => ?_,
      countThreads_eq⟩
    · have hprints := (h row hrow haccess hstatus).1 hholds
      exact exists_page_iff.mp (mem_searchStatement.mpr ⟨hrow, haccess, hstatus,
        (forall_metadataCondition_iff_of_holds hholds).mpr hprints⟩)
    · obtain ⟨-, haccess, hstatus, hfilter⟩ :=
        mem_searchStatement.mp (exists_page_iff.mpr ⟨offset, hpage⟩)
      exact not_forall_metadataCondition_iff.mpr ((h row hrow haccess hstatus).2 hdiffers) hfilter

/-! ### A truth value -/

def alice : User := ⟨"alice", none⟩

/-- A thread with the metadata `{"flag": true}`. -/
def flagRow : ThreadRow where
  thread := ⟨"t1", .idle, [("flag", .bool true)], "alice", none⟩
  createdAt := 0
  metadata := [("flag", .bool true)]
  canonical := .obj (List.pairwise_singleton _ _)
    (List.forall_mem_cons.mpr ⟨.bool true, List.forall_mem_nil _⟩)
  metadata_value := rfl

/-- The same as a filter. -/
def flagRequest : ThreadSearchRequest where
  metadata := some [("flag", .bool true)]
  status := none
  limit := none
  offset := none
  limit_bounds := fun _ h => absurd h (Option.not_mem_none _)

/-- The thread is not found: its text is `true`, and that of the filter is `True`. -/
theorem flag_not_found : ¬∀ (isprintable : Char → Bool) (user : User) (rows : List ThreadRow)
    (request : ThreadSearchRequest), FiltersRight isprintable user rows request := by
  intro h
  have hholds : Holds flagRequest.filter flagRow := by
    intro e he
    obtain rfl := List.mem_singleton.mp he
    rfl
  obtain ⟨offset, hpage⟩ := (h (fun _ => true) alice [flagRow] flagRequest).found flagRow
    List.mem_cons_self rfl (fun _ hnone => by cases hnone) hholds
  have hnone : searchStatement (fun _ => true) alice [flagRow] flagRequest = [] := rfl
  have hmem := exists_page_iff.mpr ⟨offset, hpage⟩
  rw [hnone] at hmem
  cases hmem

end ThreadSearch

end OpenLangGraph

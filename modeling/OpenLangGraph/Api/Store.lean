import OpenLangGraph.Foundation.PyString
import OpenLangGraph.Foundation.Table
import OpenLangGraph.Foundation.Transition

/-!
# The endpoints of the store

The store keeps items under a namespace, a list of labels, and a key. Its five endpoints pass the
namespace of a request through `apply_user_namespace_scoping`, which is to keep the users apart: the
items of the user `v` stand under `["users", v]`.

## What the scoping does

It replaces an empty namespace by that of the user. Every other namespace is returned as it is,
whether it is one of the user or not. So the requests of a user stay away from the items of
another one only as far as their namespaces do; `StoreRequest.isConfined` says which namespaces
these are.

## The store behind the endpoints

`AsyncPostgresStore` is a table with the key `(namespace, key)`. `StoreBackend` leaves open which
namespaces it accepts for a new item, and how it ranks what a search has found.

## Main definitions

* `applyUserNamespaceScoping`
* `StoreRequest`, `StoreBackend.handle` — the endpoints
* `StoreBackend.Isolated` — a request leaves the items of a user alone

## Main results

* `StoreBackend.isolated_along` — every sequence of confined requests
* `StoreBackend.isConfined_of_isolated` — the other requests are not isolated on some store
* `StoreBackend.reads_another_user` — one of them
-/

namespace OpenLangGraph

open PyString Transition

variable {ν : Type*}

/-! ### Namespaces -/

def usersLabel : Str := ['u', 's', 'e', 'r', 's']

/-- The namespace of a user. -/
def userNamespace (userId : Str) : List Str := [usersLabel, userId]

/-- `apply_user_namespace_scoping`. -/
def applyUserNamespaceScoping (userId : Str) (ns : Option (List Str)) : List Str :=
  match ns with
  | none | some [] => [usersLabel, userId]
  | some (label :: labels) =>
    if label = usersLabel ∧ labels.head? = some userId then label :: labels
    -- the fallback for development: any other namespace is let through as well
    else label :: labels

theorem applyUserNamespaceScoping_cons (userId label : Str) (labels : List Str) :
    applyUserNamespaceScoping userId (some (label :: labels)) = label :: labels := by
  rw [applyUserNamespaceScoping]
  split <;> rfl

/-- The namespace of a user is not under that of another one. -/
theorem not_userNamespace_isPrefix_of_ne {u v : Str} (huv : u ≠ v) :
    ¬ userNamespace v <+: userNamespace u := by
  rintro ⟨rest, hrest⟩
  injection hrest with _ hrest
  injection hrest with hvu _
  exact huv hvu.symm

/-- Scoping brings a namespace under that of another user only if it is there already. -/
theorem userNamespace_prefix_scoping {u v : Str} (huv : u ≠ v) {ns : Option (List Str)}
    (h : userNamespace v <+: applyUserNamespaceScoping u ns) :
    ∃ labels, ns = some labels ∧ userNamespace v <+: labels := by
  rcases ns with _ | _ | ⟨label, labels⟩
  · exact absurd h (not_userNamespace_isPrefix_of_ne huv)
  · exact absurd h (not_userNamespace_isPrefix_of_ne huv)
  · rw [applyUserNamespaceScoping_cons] at h
    exact ⟨label :: labels, rfl, h⟩

/-! ### Requests and responses -/

/-- `StoreItem`. -/
structure StoreItem (ν : Type*) where
  ns : List Str
  key : Str
  value : ν
  deriving DecidableEq

/-- The items of the store. -/
abbrev StoreTable (ν : Type*) := Table fun item : StoreItem ν => (item.ns, item.key)

/-- The query parameter `namespace` of a lookup: absent, a string or a list. -/
inductive NamespaceParam
  | absent
  | dotted (s : Str)
  | labels (ns : List Str)

/-- `[part for part in namespace.split(".") if part]`, for a string. -/
def NamespaceParam.toList : NamespaceParam → List Str
  | .absent => []
  | .dotted s => (splitSub ['.'] s).filter fun part => !part.isEmpty
  | .labels ns => ns

inductive StoreRequest (ν : Type*)
  | put (ns : List Str) (key : Str) (value : ν)
  | get (key : Str) (ns : NamespaceParam)
  /-- with a body, or with query parameters -/
  | delete (body : Option (List Str × Str)) (key : Option Str) (ns : Option (List Str))
  | search (nsPrefix : List Str) (query : Option Str) (limit offset : Option ℕ)
  /-- with `prefix`, `limit` and `offset`, if there is a body -/
  | listNamespaces (body : Option (Option (List Str) × ℕ × ℕ))

inductive StoreResponse (ν : Type*)
  | stored
  | item (found : StoreItem ν)
  | deleted
  | items (found : List (StoreItem ν)) (total limit offset : ℕ)
  | namespaces (found : List (List Str)) (total : ℕ)
  /-- an `HTTPException` -/
  | error (status : ℕ) (detail : String)
  /-- the error of a namespace that the store does not accept -/
  | refused

/-- The items that a response tells. -/
def StoreResponse.told : StoreResponse ν → List (StoreItem ν)
  | .item found => [found]
  | .items found _ _ _ => found
  | _ => []

/-! ### The endpoints -/

/-- What the endpoints use of the store. -/
structure StoreBackend (ν : Type*) where
  /-- `aput` raises for other namespaces -/
  accepts : List Str → Bool
  /-- the items found, ranked by the query -/
  rank : Option Str → List (StoreItem ν) → List (StoreItem ν)
  /-- the order of the namespaces in a listing -/
  arrange : List (List Str) → List (List Str)
  mem_of_mem_rank : ∀ (query : Option Str) (found : List (StoreItem ν)) (item : StoreItem ν),
    item ∈ rank query found → item ∈ found

namespace StoreBackend

variable (backend : StoreBackend ν)

/-- `aput`: a new item, or a new value. -/
def aput (table : StoreTable ν) (item : StoreItem ν) : StoreTable ν :=
  (table.insert item).getD <| table.updateIf (fun old => (old.ns, old.key) = (item.ns, item.key))
    (fun old => { old with value := item.value }) fun _ => rfl

/-- `x or d` -/
def orDefault (x : Option ℕ) (d : ℕ) : ℕ :=
  match x with
  | none | some 0 => d
  | some n => n

/-- `put_store_item`. -/
def putStoreItem (userId : Str) (ns : List Str) (key : Str) (value : ν) (table : StoreTable ν) :
    StoreTable ν × StoreResponse ν :=
  let scopedNs := applyUserNamespaceScoping userId (some ns)
  if backend.accepts scopedNs then (aput table ⟨scopedNs, key, value⟩, .stored)
  else (table, .refused)

/-- `get_store_item`. -/
def getStoreItem (userId : Str) (key : Str) (ns : NamespaceParam) (table : StoreTable ν) :
    StoreTable ν × StoreResponse ν :=
  let scopedNs := applyUserNamespaceScoping userId (some ns.toList)
  match table.find? (scopedNs, key) with
  | none => (table, .error 404 "Item not found")
  | some item => (table, .item ⟨scopedNs, key, item.value⟩)

/-- `delete_store_item`, after the source of its parameters has been determined. -/
def adelete (userId : Str) (ns : List Str) (key : Str) (table : StoreTable ν) :
    StoreTable ν × StoreResponse ν :=
  let scopedNs := applyUserNamespaceScoping userId (some ns)
  (table.deleteIf fun item => (item.ns, item.key) = (scopedNs, key), .deleted)

/-- `delete_store_item`. -/
def deleteStoreItem (userId : Str) (body : Option (List Str × Str)) (key : Option Str)
    (ns : Option (List Str)) (table : StoreTable ν) : StoreTable ν × StoreResponse ν :=
  match body, key with
  | some (ns, key), _ => adelete userId ns key table
  | none, some key => adelete userId (ns.getD []) key table
  | none, none => (table, .error 422 "Missing 'key' parameter")

/-- `asearch`. -/
def asearch (nsPrefix : List Str) (query : Option Str) (limit offset : ℕ) (table : StoreTable ν) :
    List (StoreItem ν) :=
  let found := table.rows.filter fun item => nsPrefix.isPrefixOf item.ns
  ((backend.rank query found).drop offset).take limit

/-- `search_store_items`. -/
def searchStoreItems (userId : Str) (nsPrefix : List Str) (query : Option Str)
    (limit offset : Option ℕ) (table : StoreTable ν) : StoreTable ν × StoreResponse ν :=
  let scopedNs := applyUserNamespaceScoping userId (some nsPrefix)
  let limit := orDefault limit 20
  let offset := orDefault offset 0
  let found := backend.asearch scopedNs query limit offset table
  (table, .items found found.length limit offset)

/-- `list_namespaces`. -/
def listNamespaces (userId : Str) (body : Option (Option (List Str) × ℕ × ℕ))
    (table : StoreTable ν) : StoreTable ν × StoreResponse ν :=
  let (nsPrefix, limit, offset) := body.getD (none, 100, 0)
  let scopedNs := applyUserNamespaceScoping userId nsPrefix
  let found := (table.rows.map StoreItem.ns).dedup.filter fun ns => scopedNs.isPrefixOf ns
  let page := ((backend.arrange found).drop offset).take limit
  (table, .namespaces page page.length)

/-- A request of the user. -/
def handle (userId : Str) (table : StoreTable ν) :
    StoreRequest ν → StoreTable ν × StoreResponse ν
  | .put ns key value => backend.putStoreItem userId ns key value table
  | .get key ns => getStoreItem userId key ns table
  | .delete body key ns => deleteStoreItem userId body key ns table
  | .search nsPrefix query limit offset =>
    backend.searchStoreItems userId nsPrefix query limit offset table
  | .listNamespaces body => backend.listNamespaces userId body table

def step (userId : Str) (table : StoreTable ν) (r : StoreRequest ν) : Option (StoreTable ν) :=
  some (backend.handle userId table r).1

/-! ### Isolation -/

/-- No item under the namespace of `v` is told to the user, changed or deleted by the request. -/
def Isolated (userId v : Str) (table : StoreTable ν) (r : StoreRequest ν) : Prop :=
  ∀ item ∈ table.rows, userNamespace v <+: item.ns →
    item ∉ (backend.handle userId table r).2.told ∧ item ∈ (backend.handle userId table r).1.rows

/-- The namespaces of a request are not those of `v`: nothing is stored, looked up or deleted under
its namespace, and nothing is searched under it or under the label of all users. -/
def isConfined (v : Str) : StoreRequest ν → Bool
  | .put ns _ _ => !backend.accepts ns || !(userNamespace v).isPrefixOf ns
  | .get _ ns => !(userNamespace v).isPrefixOf ns.toList
  | .delete (some (ns, _)) _ _ => !(userNamespace v).isPrefixOf ns
  | .delete none key ns => key.isNone || !(userNamespace v).isPrefixOf (ns.getD [])
  | .search nsPrefix _ _ _ =>
    !(userNamespace v).isPrefixOf nsPrefix && nsPrefix ≠ [usersLabel]
  | .listNamespaces _ => true

variable {backend} {u v : Str} {table : StoreTable ν}

theorem mem_aput {item new : StoreItem ν} (h : item ∈ table.rows)
    (hne : (item.ns, item.key) ≠ (new.ns, new.key)) : item ∈ (aput table new).rows := by
  rw [aput]
  cases hnew : table.insert new with
  | some table' =>
    rw [Option.getD_some, (Table.insert_eq_some hnew).2]
    exact List.mem_append_left _ h
  | none => exact List.mem_map.mpr ⟨item, h, if_neg (by simpa using hne)⟩

/-- The scoped namespace of a request is not under that of `v`. -/
theorem not_prefix_scoping (huv : u ≠ v) {ns : List Str}
    (h : (!(userNamespace v).isPrefixOf ns) = true) :
    ¬ userNamespace v <+: applyUserNamespaceScoping u (some ns) := by
  intro hpre
  obtain ⟨labels, hlabels, hpre⟩ := userNamespace_prefix_scoping huv hpre
  obtain rfl := Option.some.inj hlabels
  rw [List.isPrefixOf_iff_prefix.mpr hpre] at h
  exact Bool.noConfusion h

/-- A prefix of a namespace of `v` that is not itself under the namespace of `v` is `["users"]`. -/
theorem eq_users_of_prefix {nsPrefix ns : List Str} (hne : nsPrefix ≠ [])
    (hpre : nsPrefix <+: ns) (hv : userNamespace v <+: ns) (hnot : ¬ userNamespace v <+: nsPrefix) :
    nsPrefix = [usersLabel] := by
  have hle : nsPrefix <+: userNamespace v :=
    (List.prefix_or_prefix_of_prefix hpre hv).resolve_right hnot
  rcases List.prefix_cons_iff.mp hle with rfl | ⟨rest, rfl, hrest⟩
  · exact absurd rfl hne
  · rcases List.prefix_cons_iff.mp hrest with rfl | ⟨rest', rfl, hnil⟩
    · rfl
    · rw [List.prefix_nil.mp hnil] at hnot
      exact absurd List.prefix_rfl hnot

theorem isolated_put (huv : u ≠ v) {ns : List Str} {key : Str} {value : ν}
    (h : backend.isConfined v (.put ns key value) = true) :
    backend.Isolated u v table (.put ns key value) := by
  intro item hitem hv
  simp only [handle, putStoreItem]
  split
  · rename_i haccepts
    refine ⟨List.not_mem_nil, mem_aput hitem fun heq => ?_⟩
    have hns : item.ns = applyUserNamespaceScoping u (some ns) := congrArg Prod.fst heq
    obtain ⟨labels, hlabels, hpre⟩ := userNamespace_prefix_scoping huv (hns ▸ hv)
    obtain rfl := Option.some.inj hlabels
    rcases ns with _ | ⟨label, labels⟩
    · exact List.cons_ne_nil _ _ (List.prefix_nil.mp hpre)
    · rw [applyUserNamespaceScoping_cons] at haccepts
      simp [isConfined, haccepts, List.isPrefixOf_iff_prefix.mpr hpre] at h
  · exact ⟨List.not_mem_nil, hitem⟩

theorem isolated_get (huv : u ≠ v) {key : Str} {ns : NamespaceParam}
    (h : backend.isConfined v (.get key ns) = true) :
    backend.Isolated u v table (.get key ns) := by
  intro item hitem hv
  simp only [handle, getStoreItem]
  cases hfind : table.find? (applyUserNamespaceScoping u (some ns.toList), key) with
  | none => exact ⟨List.not_mem_nil, hitem⟩
  | some found =>
    refine ⟨fun htold => not_prefix_scoping huv h ?_, hitem⟩
    obtain rfl := List.mem_singleton.mp htold
    exact hv

theorem mem_adelete (huv : u ≠ v) {ns : List Str} {key : Str} {item : StoreItem ν}
    (h : (!(userNamespace v).isPrefixOf ns) = true) (hitem : item ∈ table.rows)
    (hv : userNamespace v <+: item.ns) : item ∈ (adelete u ns key table).1.rows := by
  refine List.mem_filter.mpr ⟨hitem, ?_⟩
  have hne : item.ns ≠ applyUserNamespaceScoping u (some ns) :=
    fun hns => not_prefix_scoping huv h (hns ▸ hv)
  simp [hne]

theorem isolated_delete (huv : u ≠ v) {body : Option (List Str × Str)} {key : Option Str}
    {ns : Option (List Str)} (h : backend.isConfined v (.delete body key ns) = true) :
    backend.Isolated u v table (.delete body key ns) := by
  intro item hitem hv
  rcases body with _ | ⟨ns', key'⟩
  · rcases key with _ | key
    · exact ⟨List.not_mem_nil, hitem⟩
    · exact ⟨List.not_mem_nil, mem_adelete huv h hitem hv⟩
  · exact ⟨List.not_mem_nil, mem_adelete huv h hitem hv⟩

theorem mem_asearch {nsPrefix : List Str} {query : Option Str} {limit offset : ℕ}
    {item : StoreItem ν} (h : item ∈ backend.asearch nsPrefix query limit offset table) :
    item ∈ table.rows ∧ nsPrefix <+: item.ns := by
  have hrank := List.mem_of_mem_drop (List.mem_of_mem_take h)
  obtain ⟨hitem, hpre⟩ := List.mem_filter.mp (backend.mem_of_mem_rank _ _ _ hrank)
  exact ⟨hitem, List.isPrefixOf_iff_prefix.mp hpre⟩

theorem isolated_search (huv : u ≠ v) {nsPrefix : List Str} {query : Option Str}
    {limit offset : Option ℕ}
    (h : backend.isConfined v (.search nsPrefix query limit offset) = true) :
    backend.Isolated u v table (.search nsPrefix query limit offset) := by
  intro item hitem hv
  refine ⟨fun htold => ?_, hitem⟩
  obtain ⟨-, hpre⟩ := mem_asearch htold
  simp only [isConfined, Bool.and_eq_true, decide_eq_true_eq] at h
  have hnot := not_prefix_scoping huv h.1
  have hne : applyUserNamespaceScoping u (some nsPrefix) ≠ [] := by
    rcases nsPrefix with _ | ⟨label, labels⟩
    · exact List.cons_ne_nil _ _
    · rw [applyUserNamespaceScoping_cons]
      exact List.cons_ne_nil _ _
  have husers := eq_users_of_prefix hne hpre hv hnot
  rcases nsPrefix with _ | ⟨label, labels⟩
  · exact List.cons_ne_nil _ _ (List.cons.inj husers).2
  · rw [applyUserNamespaceScoping_cons] at husers
    exact h.2 husers

/-- A confined request leaves the items of the other user alone, whatever the store contains. -/
theorem isolated_of_isConfined (huv : u ≠ v) {r : StoreRequest ν}
    (h : backend.isConfined v r = true) : backend.Isolated u v table r := by
  cases r with
  | put ns key value => exact isolated_put huv h
  | get key ns => exact isolated_get huv h
  | delete body key ns => exact isolated_delete huv h
  | search nsPrefix query limit offset => exact isolated_search huv h
  | listNamespaces body => exact fun item hitem _ => ⟨List.not_mem_nil, hitem⟩

/-- A namespace under another one is not empty, so scoping keeps it. -/
theorem scoping_of_isPrefix {ns : List Str} (h : userNamespace v <+: ns) :
    applyUserNamespaceScoping u (some ns) = ns := by
  rcases ns with _ | ⟨label, labels⟩
  · exact absurd (List.prefix_nil.mp h) (List.cons_ne_nil _ _)
  · exact applyUserNamespaceScoping_cons u label labels

/-- Items in one namespace. -/
def manyItems (ns : List Str) (value : ν) (n : ℕ) : StoreTable ν where
  rows := (List.range n).map fun i => ⟨ns, List.replicate i 'k', value⟩
  unique := by
    rw [List.map_map]
    refine List.Nodup.map (fun i j hij => ?_) List.nodup_range
    simpa using congrArg (fun k : List Str × Str => k.2.length) hij

/-- A search whose prefix is comparable to the namespace of `v` finds its items, if there are
enough of them. -/
theorem not_isolated_search (hrank : ∀ query found, (backend.rank query found).Perm found)
    (value : ν) {nsPrefix ns : List Str} {query : Option Str} {limit offset : Option ℕ}
    (hscoped : applyUserNamespaceScoping u (some nsPrefix) <+: ns) (hv : userNamespace v <+: ns) :
    ¬ ∀ table, backend.Isolated u v table (.search nsPrefix query limit offset) := by
  intro h
  have hall : ∀ item ∈ (manyItems ns value (orDefault offset 0 + 1)).rows, item.ns = ns := by
    intro item hitem
    obtain ⟨i, -, rfl⟩ := List.mem_map.mp hitem
    rfl
  have hfilter : (manyItems ns value (orDefault offset 0 + 1)).rows.filter
      (fun item => (applyUserNamespaceScoping u (some nsPrefix)).isPrefixOf item.ns) =
        (manyItems ns value (orDefault offset 0 + 1)).rows :=
    List.filter_eq_self.mpr fun item hitem => by
      rw [hall item hitem]
      exact List.isPrefixOf_iff_prefix.mpr hscoped
  have hlimit : 0 < orDefault limit 20 := by
    rcases limit with _ | _ | n
    · decide
    · decide
    · exact Nat.succ_pos n
  have hlen : 0 < (backend.asearch (applyUserNamespaceScoping u (some nsPrefix)) query
      (orDefault limit 20) (orDefault offset 0)
      (manyItems ns value (orDefault offset 0 + 1))).length := by
    rw [asearch, hfilter, List.length_take, List.length_drop, (hrank _ _).length_eq, manyItems,
      List.length_map, List.length_range]
    omega
  obtain ⟨item, hitem⟩ := List.exists_mem_of_length_pos hlen
  have hrow := (mem_asearch hitem).1
  exact (h _ item hrow (hall item hrow ▸ hv)).1 hitem

/-- A request that is not confined reaches an item of the other user on some store, if the store
ranks what it finds and keeps all of it. -/
theorem isConfined_of_isolated [Nontrivial ν]
    (hrank : ∀ query found, (backend.rank query found).Perm found) {r : StoreRequest ν}
    (h : ∀ table, backend.Isolated u v table r) : backend.isConfined v r = true := by
  by_contra hr
  cases r with
  | put ns key value =>
    obtain ⟨haccepts, hpre⟩ : backend.accepts ns = true ∧ userNamespace v <+: ns := by
      simpa [isConfined, List.isPrefixOf_iff_prefix] using hr
    obtain ⟨other, hne⟩ := exists_ne value
    have hkept := (h (Table.single ⟨ns, key, other⟩) _ (List.mem_singleton_self _) hpre).2
    simp [handle, putStoreItem, scoping_of_isPrefix hpre, haccepts, aput, Table.insert,
      Table.single, Table.updateIf, hne] at hkept
  | get key ns =>
    have hpre : userNamespace v <+: ns.toList := by
      simpa [isConfined, List.isPrefixOf_iff_prefix] using hr
    obtain ⟨value, -⟩ := exists_pair_ne ν
    have htold := (h (Table.single ⟨ns.toList, key, value⟩) _ (List.mem_singleton_self _) hpre).1
    simp [handle, getStoreItem, scoping_of_isPrefix hpre, Table.find?, Table.single,
      StoreResponse.told] at htold
  | delete body key ns =>
    obtain ⟨value, -⟩ := exists_pair_ne ν
    rcases body with _ | ⟨ns', key'⟩
    · rcases key with _ | key
      · exact hr rfl
      · have hpre : userNamespace v <+: ns.getD [] := by
          simpa [isConfined, List.isPrefixOf_iff_prefix] using hr
        have hkept := (h (Table.single ⟨ns.getD [], key, value⟩) _ (List.mem_singleton_self _)
          hpre).2
        simp [handle, deleteStoreItem, adelete, scoping_of_isPrefix hpre, Table.deleteIf,
          Table.single] at hkept
    · have hpre : userNamespace v <+: ns' := by
        simpa [isConfined, List.isPrefixOf_iff_prefix] using hr
      have hkept := (h (Table.single ⟨ns', key', value⟩) _ (List.mem_singleton_self _) hpre).2
      simp [handle, deleteStoreItem, adelete, scoping_of_isPrefix hpre, Table.deleteIf,
        Table.single] at hkept
  | search nsPrefix query limit offset =>
    obtain ⟨value, -⟩ := exists_pair_ne ν
    by_cases hpre : userNamespace v <+: nsPrefix
    · refine not_isolated_search hrank value ?_ hpre h
      simp only [scoping_of_isPrefix hpre, List.prefix_rfl]
    · have husers : nsPrefix = [usersLabel] := by
        by_contra hne
        rw [← List.isPrefixOf_iff_prefix] at hpre
        exact hr (by simp [isConfined, hne, Bool.eq_false_iff.mpr hpre])
      refine not_isolated_search hrank value ?_ List.prefix_rfl h
      rw [husers, applyUserNamespaceScoping_cons]
      exact ⟨[v], rfl⟩
  | listNamespaces body => exact hr rfl

/-! ### Two users -/

/-- A store that keeps what it is given, in the order in which it was given. -/
def simple : StoreBackend ν := ⟨fun _ => true, fun _ found => found, id, fun _ _ _ h => h⟩

end StoreBackend

end OpenLangGraph

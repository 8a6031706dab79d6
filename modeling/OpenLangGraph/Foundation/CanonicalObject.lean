import OpenLangGraph.Foundation.Json

/-!
# JSON objects with decidable equality

An object in canonical form, as a type: two of them are equal if and only if they have the same
data. A member that is itself an object is found and set as one.

## Main definitions

* `Json.beq` — equality of documents, decided
* `CanonicalObject`, `CanonicalObject.object?`, `CanonicalObject.setObject`

## Main results

* `Json.beq_iff`
* `CanonicalObject.object?_setObject` — an object that was set is found
-/

namespace Json

/-! ### Equality -/

mutual

/-- The documents are equal. -/
def beq : Json → Json → Bool
  | .null, .null => true
  | .bool a, .bool b => a = b
  | .num x, .num y => x = y
  | .str s, .str t => s = t
  | .arr as, .arr bs => beqItems as bs
  | .obj as, .obj bs => beqEntries as bs
  | _, _ => false

def beqItems : List Json → List Json → Bool
  | [], [] => true
  | a :: as, b :: bs => beq a b && beqItems as bs
  | _, _ => false

def beqEntries : List (String × Json) → List (String × Json) → Bool
  | [], [] => true
  | (j, a) :: as, (k, b) :: bs => j = k && beq a b && beqEntries as bs
  | _, _ => false

end

theorem beqItems_iff {as : List Json} (h : ∀ a ∈ as, ∀ b, beq a b = true ↔ a = b)
    (bs : List Json) : beqItems as bs = true ↔ as = bs := by
  induction as generalizing bs with
  | nil => cases bs <;> simp [beqItems]
  | cons a as ih =>
    cases bs with
    | nil => simp [beqItems]
    | cons b bs =>
      rw [beqItems, Bool.and_eq_true, h a List.mem_cons_self,
        ih fun c hc => h c (List.mem_cons_of_mem _ hc), List.cons.injEq]

theorem beqEntries_iff {as : List (String × Json)} (h : ∀ e ∈ as, ∀ b, beq e.2 b = true ↔ e.2 = b)
    (bs : List (String × Json)) : beqEntries as bs = true ↔ as = bs := by
  induction as generalizing bs with
  | nil => cases bs <;> simp [beqEntries]
  | cons e as ih =>
    cases bs with
    | nil => simp [beqEntries]
    | cons d bs =>
      rw [beqEntries, Bool.and_eq_true, Bool.and_eq_true, decide_eq_true_eq,
        h e List.mem_cons_self, ih fun c hc => h c (List.mem_cons_of_mem _ hc), List.cons.injEq,
        Prod.ext_iff]

theorem beq_iff (a b : Json) : beq a b = true ↔ a = b := by
  induction a using inductionOn generalizing b with
  | null => cases b <;> simp [beq]
  | bool => cases b <;> simp [beq]
  | num => cases b <;> simp [beq]
  | str => cases b <;> simp [beq]
  | arr as ih => cases b <;> simp [beq, beqItems_iff ih]
  | obj as ih => cases b <;> simp [beq, beqEntries_iff ih]

instance : DecidableEq Json := fun a b => decidable_of_iff _ (beq_iff a b)

end Json

/-! ### Objects -/

/-- A JSON object in canonical form. -/
@[ext] structure CanonicalObject where
  entries : List (String × Json)
  canonical : (Json.obj entries).Canonical
deriving DecidableEq

namespace CanonicalObject

/-- `{}` -/
def empty : CanonicalObject := ⟨[], .obj List.Pairwise.nil (by simp)⟩

theorem sortedKeys (o : CanonicalObject) : Json.SortedKeys o.entries := by
  cases o.canonical with
  | obj hs => exact hs

theorem canonical_of_mem (o : CanonicalObject) {e : String × Json} (h : e ∈ o.entries) :
    e.2.Canonical := by
  cases o.canonical with
  | obj _ hmembers => exact hmembers e h

/-- A document, if it is an object. -/
def ofJson (data : Json) (h : data.Canonical) : Option CanonicalObject :=
  match data, h with
  | .obj entries, h => some ⟨entries, h⟩
  | _, _ => none

/-- `o.get(key)`, if it is an object. -/
def object? (o : CanonicalObject) (key : String) : Option CanonicalObject :=
  match h : o.entries.lookup key with
  | none => none
  | some data => ofJson data
    (o.canonical_of_mem (e := (key, data)) (by
      obtain ⟨before, after, hentries, -⟩ := List.lookup_eq_some_iff.mp h
      rw [hentries]
      simp))

/-- `o[key] = member` -/
def setObject (o : CanonicalObject) (key : String) (member : CanonicalObject) :
    CanonicalObject where
  entries := Json.insertEntry key (.obj member.entries) o.entries
  canonical := .obj (Json.sortedKeys_insertEntry _ _ o.sortedKeys) fun e he => by
    rcases Json.mem_insertEntry he with rfl | he
    · exact member.canonical
    · exact o.canonical_of_mem he

variable {o member : CanonicalObject} {key : String}

theorem ofJson_eq_some_iff {data : Json} (h : data.Canonical) :
    ofJson data h = some member ↔ data = .obj member.entries := by
  cases data <;> simp [ofJson, CanonicalObject.ext_iff]

theorem object?_eq_some_iff :
    o.object? key = some member ↔ o.entries.lookup key = some (.obj member.entries) := by
  rw [object?]
  split
  · next h => simp [h]
  · next data h => rw [ofJson_eq_some_iff, h, Option.some.injEq]

/-- An object that was set is found. -/
theorem object?_setObject (o : CanonicalObject) (key : String) (member : CanonicalObject) :
    (o.setObject key member).object? key = some member := by
  rw [object?_eq_some_iff]
  show (Json.insertEntry key _ o.entries).lookup key = _
  rw [Json.lookup_insertEntry, if_pos rfl]

theorem object?_empty (key : String) : empty.object? key = none := by
  cases h : empty.object? key with
  | none => rfl
  | some member => cases object?_eq_some_iff.mp h

end CanonicalObject

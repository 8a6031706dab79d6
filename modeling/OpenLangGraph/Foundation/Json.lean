import Mathlib.Data.List.Forall2
import Mathlib.Data.String.Basic

/-!
# JSON data

JSON documents as data: two texts that differ in the order of the members of an object, or in a
member that a later one with the same key overrides, have the same data. `ofEntries` builds an
object from members in the order of the text, and keeps them sorted by key; `Canonical` says that
all objects of a value are in that form, so that equality of canonical values is equality of data.

## Main definitions

* `Json`, `Json.ofEntries`
* `Json.Canonical` — every object is sorted by key, without duplicates
* `Json.asStr`, `Json.asOptStr`, … — a document as the value of a field
* `Json.depthAt`, `Json.headDepth` — how far a path of equal steps leads

## Main results

* `Json.inductionOn` — induction on a document
* `Json.lookup_insertEntry` — a member overrides the earlier ones with its key
* `Json.ofEntries_of_sorted` — building an object from sorted members changes nothing
-/

/-- A floating-point number by its value. -/
inductive PyFloat
  | finite (q : Rat)
  | nan
  | inf (negative : Bool)
deriving DecidableEq

/-- A JSON value. Numbers are compared by value; `nan` and `inf` are the extra tokens that
Python's encoder writes. -/
inductive Json
  | null
  | bool (b : Bool)
  | num (x : PyFloat)
  | str (s : String)
  | arr (items : List Json)
  | obj (entries : List (String × Json))

namespace Json

/-- Induction on a document, with the hypothesis for every item of a list and every value of an
object. -/
@[elab_as_elim]
theorem inductionOn {motive : Json → Prop} (data : Json) (null : motive .null)
    (bool : ∀ b, motive (.bool b)) (num : ∀ x, motive (.num x)) (str : ∀ s, motive (.str s))
    (arr : ∀ items : List Json, (∀ item ∈ items, motive item) → motive (.arr items))
    (obj : ∀ entries : List (String × Json), (∀ e ∈ entries, motive e.2) → motive (.obj entries)) :
    motive data :=
  @Json.rec motive (fun items => ∀ item ∈ items, motive item)
    (fun entries => ∀ e ∈ entries, motive e.2) (fun e => motive e.2) null bool num str arr obj
    (List.forall_mem_nil _) (fun _ _ h hs => List.forall_mem_cons.mpr ⟨h, hs⟩)
    (List.forall_mem_nil _) (fun _ _ h hs => List.forall_mem_cons.mpr ⟨h, hs⟩)
    (fun _ _ h => h) data

/-- `bool(v)` of the value that a document is loaded as. -/
def truthy : Json → Bool
  | .null => false
  | .bool b => b
  | .num x => x ≠ .finite 0
  | .str s => s ≠ ""
  | .arr items => !items.isEmpty
  | .obj entries => !entries.isEmpty

/-- Set a member of an object whose members are sorted by key. -/
def insertEntry (k : String) (v : Json) : List (String × Json) → List (String × Json)
  | [] => [(k, v)]
  | e :: es =>
    if k < e.1 then (k, v) :: e :: es
    else if k = e.1 then (k, v) :: es
    else e :: insertEntry k v es

/-- Set members in order, each overriding the earlier ones with its key. -/
def insertEntries (acc es : List (String × Json)) : List (String × Json) :=
  es.foldl (fun acc e => insertEntry e.1 e.2 acc) acc

/-- The object with the given members, in the order of its text. -/
def ofEntries (es : List (String × Json)) : Json := .obj (insertEntries [] es)

@[simp] theorem insertEntries_nil (acc : List (String × Json)) : insertEntries acc [] = acc := rfl

@[simp] theorem insertEntries_cons (acc : List (String × Json)) (e : String × Json)
    (es : List (String × Json)) :
    insertEntries acc (e :: es) = insertEntries (insertEntry e.1 e.2 acc) es := rfl

theorem lookup_cons (k : String) (e : String × Json) (es : List (String × Json)) :
    (e :: es).lookup k = if k = e.1 then some e.2 else es.lookup k := by
  obtain ⟨k', v⟩ := e
  by_cases h : k = k'
  · simp [h]
  · simp [List.lookup_cons, h, beq_eq_false_iff_ne.mpr h]

/-- A member overrides the earlier one with its key. -/
theorem lookup_insertEntry (k k' : String) (v : Json) (es : List (String × Json)) :
    (insertEntry k' v es).lookup k = if k = k' then some v else es.lookup k := by
  induction es with
  | nil => rw [insertEntry, lookup_cons]
  | cons e es ih =>
    rw [insertEntry]
    split
    · rw [lookup_cons]
    · split
      · rename_i heq
        rw [lookup_cons, lookup_cons, ← heq]
        split <;> rfl
      · rename_i hne
        rw [lookup_cons, lookup_cons, ih]
        by_cases h : k = e.1
        · rw [if_pos h, if_neg fun hk => hne (hk.symm.trans h), if_pos h]
        · rw [if_neg h, if_neg h]

/-- The last member with a key counts. -/
theorem lookup_insertEntries (k : String) (acc es : List (String × Json)) :
    (insertEntries acc es).lookup k = (es.reverse.lookup k).or (acc.lookup k) := by
  induction es generalizing acc with
  | nil => simp
  | cons e es ih =>
    rw [insertEntries_cons, ih, lookup_insertEntry, List.reverse_cons, List.lookup_append,
      Option.or_assoc, lookup_cons, List.lookup_nil]
    split
    · rfl
    · rfl

/-- With no two members of one key, the order does not matter. -/
theorem lookup_insertEntries_of_nodup {es : List (String × Json)} (h : (es.map Prod.fst).Nodup)
    (k : String) : (insertEntries [] es).lookup k = es.lookup k := by
  rw [lookup_insertEntries, List.lookup_nil, Option.or_none]
  induction es with
  | nil => rfl
  | cons e es ih =>
    obtain ⟨hfirst, hrest⟩ := List.nodup_cons.mp h
    rw [List.reverse_cons, List.lookup_append, ih hrest, lookup_cons, lookup_cons, List.lookup_nil]
    split
    · rename_i hk
      have hnone : es.lookup k = none := by
        rw [List.lookup_eq_none_iff]
        intro d hd
        have hne : k ≠ d.1 := by
          rintro rfl
          exact hfirst (hk ▸ List.mem_map_of_mem hd)
        simpa using hne
      rw [hnone, Option.none_or]
    · rw [Option.or_none]

/-- Values that are changed key by key. -/
theorem lookup_map {f : String × Json → Json} (k : String) (es : List (String × Json)) :
    (es.map fun e => (e.1, f e)).lookup k = (es.lookup k).map fun v => f (k, v) := by
  induction es with
  | nil => rfl
  | cons e es ih =>
    rw [List.map_cons, lookup_cons, lookup_cons, ih]
    split
    · rename_i hk
      rw [Option.map_some, hk]
    · rfl

theorem mem_insertEntry {k : String} {v : Json} {es : List (String × Json)} {e : String × Json}
    (h : e ∈ insertEntry k v es) : e = (k, v) ∨ e ∈ es := by
  induction es with
  | nil => exact .inl (List.mem_singleton.mp h)
  | cons d es ih =>
    rw [insertEntry] at h
    split at h
    · exact (List.mem_cons.mp h).imp_right id
    · split at h
      · exact (List.mem_cons.mp h).imp_right (List.mem_cons_of_mem _)
      · rcases List.mem_cons.mp h with rfl | h
        · exact .inr List.mem_cons_self
        · exact (ih h).imp_right (List.mem_cons_of_mem _)

theorem perm_insertEntry {k : String} (v : Json) {es : List (String × Json)}
    (h : k ∉ es.map Prod.fst) : (insertEntry k v es).Perm ((k, v) :: es) := by
  induction es with
  | nil => exact .refl _
  | cons e es ih =>
    rw [List.map_cons, List.mem_cons, not_or] at h
    rw [insertEntry]
    split
    · exact .refl _
    · rw [if_neg h.1]
      exact ((ih h.2).cons e).trans (.swap _ _ _)

/-- Members with different keys all stay. -/
theorem perm_insertEntries {acc es : List (String × Json)}
    (h : ((acc ++ es).map Prod.fst).Nodup) : (insertEntries acc es).Perm (acc ++ es) := by
  induction es generalizing acc with
  | nil => simp
  | cons e es ih =>
    have hmiddle : (acc ++ e :: es).Perm (e :: acc ++ es) := List.perm_middle
    have hnodup := (hmiddle.map Prod.fst).nodup_iff.mp h
    have hfresh : e.1 ∉ acc.map Prod.fst := by
      intro hmem
      rw [List.cons_append, List.map_cons, List.nodup_cons, List.map_append] at hnodup
      exact hnodup.1 (List.mem_append_left _ hmem)
    have hinsert := perm_insertEntry e.2 hfresh
    rw [insertEntries_cons]
    refine (ih ?_).trans ((hinsert.append_right es).trans hmiddle.symm)
    exact ((hinsert.append_right es).map Prod.fst).nodup_iff.mpr hnodup

/-- The members are sorted by key, and no key occurs twice. -/
def SortedKeys (es : List (String × Json)) : Prop := es.Pairwise fun a b => a.1 < b.1

theorem sortedKeys_insertEntry (k : String) (v : Json) {es : List (String × Json)}
    (h : SortedKeys es) : SortedKeys (insertEntry k v es) := by
  induction es with
  | nil => exact List.pairwise_singleton _ _
  | cons e es ih =>
    have hes := List.pairwise_cons.mp h
    rw [insertEntry]
    split
    · rename_i hlt
      refine List.pairwise_cons.mpr ⟨fun d hd => ?_, h⟩
      rcases List.mem_cons.mp hd with rfl | hd
      · exact hlt
      · exact hlt.trans (hes.1 d hd)
    · rename_i hge
      split
      · rename_i heq
        exact List.pairwise_cons.mpr ⟨fun d hd => heq ▸ hes.1 d hd, hes.2⟩
      · rename_i hne
        refine List.pairwise_cons.mpr ⟨fun d hd => ?_, ih hes.2⟩
        rcases mem_insertEntry hd with rfl | hd
        · exact lt_of_le_of_ne (not_lt.mp hge) (Ne.symm hne)
        · exact hes.1 d hd

theorem insertEntry_of_forall_lt {k : String} (v : Json) {es : List (String × Json)}
    (h : ∀ e ∈ es, e.1 < k) : insertEntry k v es = es ++ [(k, v)] := by
  induction es with
  | nil => rfl
  | cons e es ih =>
    have he := h e List.mem_cons_self
    rw [insertEntry, if_neg (lt_asymm he), if_neg (ne_of_gt he),
      ih fun d hd => h d (List.mem_cons_of_mem _ hd), List.cons_append]

theorem insertEntries_of_sorted {acc es : List (String × Json)} (h : SortedKeys (acc ++ es)) :
    insertEntries acc es = acc ++ es := by
  induction es generalizing acc with
  | nil => simp
  | cons e es ih =>
    have hlt : ∀ d ∈ acc, d.1 < e.1 := fun d hd =>
      (List.pairwise_append.mp h).2.2 d hd e List.mem_cons_self
    rw [insertEntries_cons, insertEntry_of_forall_lt _ hlt, ih (by simpa using h)]
    simp

/-- Building an object from sorted members changes nothing. -/
theorem ofEntries_of_sorted {es : List (String × Json)} (h : SortedKeys es) :
    ofEntries es = .obj es := by
  have hinsert : insertEntries [] es = [] ++ es := insertEntries_of_sorted (by simpa using h)
  rw [ofEntries, hinsert, List.nil_append]

/-! ### Canonical values -/

/-- Every object of the value is sorted by key, without duplicates. -/
inductive Canonical : Json → Prop
  | null : Canonical .null
  | bool (b : Bool) : Canonical (.bool b)
  | num (x : PyFloat) : Canonical (.num x)
  | str (s : String) : Canonical (.str s)
  | arr {js : List Json} (h : ∀ j ∈ js, Canonical j) : Canonical (.arr js)
  | obj {es : List (String × Json)} (hs : SortedKeys es) (h : ∀ e ∈ es, Canonical e.2) :
      Canonical (.obj es)

theorem Canonical.ofEntries {es : List (String × Json)} (h : ∀ e ∈ es, Canonical e.2) :
    Canonical (ofEntries es) := by
  suffices ∀ acc : List (String × Json), SortedKeys acc → (∀ e ∈ acc, Canonical e.2) →
      Canonical (.obj (insertEntries acc es)) from this [] List.Pairwise.nil (by simp)
  induction es with
  | nil => exact fun acc hs hacc => .obj hs hacc
  | cons e es ih =>
    intro acc hs hacc
    refine ih (fun d hd => h d (List.mem_cons_of_mem _ hd)) _ (sortedKeys_insertEntry _ _ hs) ?_
    intro d hd
    rcases mem_insertEntry hd with rfl | hd
    · exact h e List.mem_cons_self
    · exact hacc d hd

/-! ### Depth along a path -/

mutual

/-- How many times the member `k` can be taken in a row. -/
def depthAt (k : String) : Json → ℕ
  | .obj es => depthAtEntries k es
  | _ => 0

def depthAtEntries (k : String) : List (String × Json) → ℕ
  | [] => 0
  | (k', j) :: es => if k = k' then depthAt k j + 1 else depthAtEntries k es

end

/-- How many times the first item can be taken in a row. -/
def headDepth : Json → ℕ
  | .arr (j :: _) => headDepth j + 1
  | _ => 0

theorem depthAtEntries_insertEntry (k k' : String) (v : Json) (es : List (String × Json)) :
    depthAtEntries k (insertEntry k' v es) =
      if k = k' then depthAt k v + 1 else depthAtEntries k es := by
  have hlookup : ∀ es : List (String × Json), depthAtEntries k es =
      ((es.lookup k).map fun j => depthAt k j + 1).getD 0 := by
    intro es
    induction es with
    | nil => rfl
    | cons e es ih =>
      rw [depthAtEntries, lookup_cons, ih]
      split <;> rfl
  rw [hlookup, lookup_insertEntry, hlookup]
  split <;> rfl

theorem depthAt_ofEntries (k : String) (es : List (String × Json)) :
    depthAt k (ofEntries es) = depthAtEntries k (insertEntries [] es) := by
  rw [ofEntries, depthAt]

/-- Members with the same keys and no deeper values make an object that is no deeper. -/
theorem depthAtEntries_insertEntries_le (k : String) {es es' : List (String × Json)}
    (h : List.Forall₂ (fun a b => a.1 = b.1 ∧ depthAt k a.2 ≤ depthAt k b.2) es es')
    {acc acc' : List (String × Json)} (hacc : depthAtEntries k acc ≤ depthAtEntries k acc') :
    depthAtEntries k (insertEntries acc es) ≤ depthAtEntries k (insertEntries acc' es') := by
  induction h generalizing acc acc' with
  | nil => exact hacc
  | @cons a b _ _ hab _ ih =>
    refine ih ?_
    rw [depthAtEntries_insertEntry, depthAtEntries_insertEntry, hab.1]
    split
    · exact Nat.succ_le_succ hab.2
    · exact hacc

/-! ### Fields of a type

A document is valid for a field of a type if it is loaded as a value of that type. -/

/-- The value of a field that is `str | None`. -/
def ofOptStr : Option String → Json
  | none => .null
  | some s => .str s

/-- The value of a field that is `dict | None`. -/
def ofOptObj : Option (List (String × Json)) → Json
  | none => .null
  | some entries => .obj entries

def ofInt (n : ℤ) : Json := .num (.finite n)

/-- A value for a field that is `str`. -/
def asStr : Json → Option String
  | .str s => some s
  | _ => none

/-- A value for a field that is `str | None`. -/
def asOptStr : Json → Option (Option String)
  | .null => some none
  | .str s => some (some s)
  | _ => none

/-- A value for a field that is `dict`. -/
def asObj : Json → Option (List (String × Json))
  | .obj entries => some entries
  | _ => none

/-- A value for a field that is `dict | None`. -/
def asOptObj : Json → Option (Option (List (String × Json)))
  | .null => some none
  | .obj entries => some (some entries)
  | _ => none

/-- A value for a field that is `int`. -/
def asInt : Json → Option ℤ
  | .num (.finite q) => if q.den = 1 then some q.num else none
  | _ => none

/-- A value for a field that is `bool`. -/
def asBool : Json → Option Bool
  | .bool b => some b
  | _ => none

@[simp] theorem asOptStr_ofOptStr (s : Option String) : asOptStr (ofOptStr s) = some s := by
  cases s <;> rfl

@[simp] theorem asOptObj_ofOptObj (entries : Option (List (String × Json))) :
    asOptObj (ofOptObj entries) = some entries := by
  cases entries <;> rfl

@[simp] theorem asInt_ofInt (n : ℤ) : asInt (ofInt n) = some n := by
  simp [asInt, ofInt]

theorem asOptObj_eq_some {j : Json} {entries : Option (List (String × Json))}
    (h : asOptObj j = some entries) : j = ofOptObj entries := by
  cases j with
  | null => exact Option.some.inj h ▸ rfl
  | obj es => exact Option.some.inj h ▸ rfl
  | bool | num | str | arr => cases h

end Json

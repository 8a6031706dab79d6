import OpenLangGraph.Foundation.Json
import Mathlib.Data.Int.Notation
import Mathlib.Data.Nat.Notation

/-!
# Python values

The values that flow through code which serializes arbitrary objects. Objects of user classes are
kept by what such code can see of them: whether they offer a dump method, are an `Interrupt` or a
named tuple, and else their `str()`.

## Scope

A value is a finite tree: there is no identity, no mutation and no cycle. An object whose dump
method raises is not represented, nor is a subclass of a built-in container with a dump method of
its own.

## Main definitions

* `PyVal`, `PyKey`
* `PyVal.asTuple`, `PyVal.asDict`, `PyVal.get` — what `isinstance` and `dict.get` see
* `PyVal.members`, `PyVal.Everywhere` — the members of a value, and a property of all of them
* `PyVal.ofJson` — what `json.loads` returns

## Main results

* `PyVal.memInduction` — induction with hypotheses for the members of containers
-/

/-- The key of a dictionary. -/
inductive PyKey
  | str (s : String)
  | int (n : ℤ)
  /-- A float, by its `repr`. -/
  | float (repr : String)
  | bool (b : Bool)
  | none
  /-- A key of any other type, such as a tuple. -/
  | other (text : String)
deriving DecidableEq

/-- A Python value. -/
inductive PyVal
  | none
  | bool (b : Bool)
  | int (n : ℤ)
  | float (x : PyFloat)
  | str (s : String)
  | list (items : List PyVal)
  | tuple (items : List PyVal)
  /-- A set or frozenset, in the order in which it is iterated. -/
  | set (items : List PyVal)
  | dict (entries : List (PyKey × PyVal))
  | namedtuple (fields : List (String × PyVal))
  /-- An object with a `model_dump` or `dict` method, and what the method returns. -/
  | model (dump : PyVal)
  /-- An object of a class called `Interrupt`, with its two attributes. -/
  | interrupt (value id : PyVal)
  /-- An object of any other class, and its `str()`. -/
  | other (text : String)

namespace PyVal

/-- Induction on values, with an induction hypothesis for every member of a container. -/
theorem memInduction {P : PyVal → Prop}
    (none : P .none) (bool : ∀ b, P (.bool b)) (int : ∀ n, P (.int n)) (float : ∀ x, P (.float x))
    (str : ∀ s, P (.str s))
    (list : ∀ items, (∀ v ∈ items, P v) → P (.list items))
    (tuple : ∀ items, (∀ v ∈ items, P v) → P (.tuple items))
    (set : ∀ items, (∀ v ∈ items, P v) → P (.set items))
    (dict : ∀ entries, (∀ e ∈ entries, P e.2) → P (.dict entries))
    (namedtuple : ∀ fields, (∀ e ∈ fields, P e.2) → P (.namedtuple fields))
    (model : ∀ dump, P dump → P (.model dump))
    (interrupt : ∀ value id, P value → P id → P (.interrupt value id))
    (other : ∀ text, P (.other text)) : ∀ v, P v :=
  PyVal.rec (motive_1 := P) (motive_2 := fun items => ∀ v ∈ items, P v)
    (motive_3 := fun entries => ∀ e ∈ entries, P e.2)
    (motive_4 := fun fields => ∀ e ∈ fields, P e.2)
    (motive_5 := fun e => P e.2) (motive_6 := fun e => P e.2)
    none bool int float str list tuple set dict namedtuple model interrupt other
    (fun _ h => by cases h)
    (fun _ _ hv hl => List.forall_mem_cons.mpr ⟨hv, hl⟩)
    (fun _ h => by cases h)
    (fun _ _ he hl => List.forall_mem_cons.mpr ⟨he, hl⟩)
    (fun _ h => by cases h)
    (fun _ _ he hl => List.forall_mem_cons.mpr ⟨he, hl⟩)
    (fun _ _ hv => hv) (fun _ _ hv => hv)

/-- The items, if `isinstance(v, tuple)`. A named tuple is a tuple. -/
def asTuple : PyVal → Option (List PyVal)
  | .tuple items => some items
  | .namedtuple fields => some (fields.map Prod.snd)
  | _ => Option.none

/-- The entries, if `isinstance(v, dict)`. -/
def asDict : PyVal → Option (List (PyKey × PyVal))
  | .dict entries => some entries
  | _ => Option.none

/-- `v == s` for a string `s`. -/
def eqStr (v : PyVal) (s : String) : Bool :=
  match v with
  | .str t => t == s
  | _ => false

theorem eqStr_iff {v : PyVal} {s : String} : v.eqStr s = true ↔ v = .str s := by
  cases v <;> simp [eqStr]

/-- `entries.get(k)` for a string key. -/
def get (entries : List (PyKey × PyVal)) (k : String) : Option PyVal := entries.lookup (.str k)

/-- `bool(v)`. An object of a class without a length is true. -/
def truthy : PyVal → Bool
  | .none => false
  | .bool b => b
  | .int n => n ≠ 0
  | .float x => x ≠ .finite 0
  | .str s => s ≠ ""
  | .list items | .tuple items | .set items => !items.isEmpty
  | .dict entries => !entries.isEmpty
  | .namedtuple fields => !fields.isEmpty
  | .model _ | .interrupt _ _ | .other _ => true

/-- `len(v)`, `none` being `TypeError`. -/
def len : PyVal → Option ℕ
  | .str s => some s.length
  | .list items => some items.length
  | .tuple items => some items.length
  | .set items => some items.length
  | .dict entries => some entries.length
  | .namedtuple fields => some fields.length
  | _ => Option.none

/-- What the JSON encoder makes of a key; `none` is `TypeError`. -/
def jsonKey : PyKey → Option String
  | .str s => some s
  | .int n => some (toString n)
  | .float repr => some repr
  | .bool b => some (if b then "true" else "false")
  | .none => some "null"
  | .other _ => Option.none

/-! ### Members -/

/-- The values that a value is made of: items, values of a dictionary, fields, the dump of an
object, and the two attributes of an `Interrupt`. -/
def members : PyVal → List PyVal
  | .list items | .tuple items | .set items => items
  | .dict entries => entries.map Prod.snd
  | .namedtuple fields => fields.map Prod.snd
  | .model dump => [dump]
  | .interrupt value id => [value, id]
  | .none | .bool _ | .int _ | .float _ | .str _ | .other _ => []

/-- `P` holds of the value and, at any depth, of its members. -/
inductive Everywhere (P : PyVal → Prop) : PyVal → Prop
  | intro {v : PyVal} (self : P v) (members : ∀ m ∈ v.members, Everywhere P m) : Everywhere P v

theorem everywhere_iff {P : PyVal → Prop} {v : PyVal} :
    Everywhere P v ↔ P v ∧ ∀ m ∈ v.members, Everywhere P m :=
  ⟨fun ⟨hself, hmembers⟩ => ⟨hself, hmembers⟩, fun h => .intro h.1 h.2⟩

theorem Everywhere.self {P : PyVal → Prop} {v : PyVal} (h : Everywhere P v) : P v :=
  (everywhere_iff.mp h).1

theorem Everywhere.member {P : PyVal → Prop} {v m : PyVal} (h : Everywhere P v)
    (hm : m ∈ v.members) : Everywhere P m := (everywhere_iff.mp h).2 m hm

/-! ### Reading JSON -/

mutual

/-- `json.loads` -/
def ofJson : Json → PyVal
  | .null => .none
  | .bool b => .bool b
  | .num x => .float x
  | .str s => .str s
  | .arr items => .list (ofJsonItems items)
  | .obj entries => .dict (ofJsonEntries entries)

def ofJsonItems : List Json → List PyVal
  | [] => []
  | j :: js => ofJson j :: ofJsonItems js

def ofJsonEntries : List (String × Json) → List (PyKey × PyVal)
  | [] => []
  | (k, j) :: es => (.str k, ofJson j) :: ofJsonEntries es

end

theorem ofJson_eq_none_iff {j : Json} : ofJson j = .none ↔ j = .null := by
  cases j <;> simp [ofJson]

theorem asTuple_ofJson (j : Json) : (ofJson j).asTuple = Option.none := by
  cases j <;> rfl

theorem get_ofJsonEntries (k : String) (es : List (String × Json)) :
    get (ofJsonEntries es) k = (es.lookup k).map ofJson := by
  induction es with
  | nil => rfl
  | cons e es ih =>
    rw [Json.lookup_cons, ofJsonEntries, get]
    by_cases h : k = e.1
    · simp [h]
    · have hkey : (PyKey.str k == PyKey.str e.1) = false := by simpa using h
      rw [List.lookup_cons, hkey, if_neg h]
      exact ih

end PyVal

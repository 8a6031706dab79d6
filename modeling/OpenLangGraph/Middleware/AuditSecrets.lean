import OpenLangGraph.Middleware.Audit

/-!
# What the audit log tells of secrets

The values under sensitive keys of a request body are replaced before the body is kept. Whether
they are hidden is a statement about two bodies, `Masking.Agree`, which are equal but for such
values: what is kept of them is to be the same.

## The items that are not masked

A list that was cut ends with a notice, an object whose member `_truncated` is true. The loop over
the list does not mask a notice, and it recognises one by this member. An item that the client has
sent with that member is taken for a notice as well, and is kept with everything in it.

## Main definitions

* `Masking.Agree` — equal but for the values under sensitive keys
* `Masking.conceals` — no item that is taken for a notice has a sensitive key

## Main results

* `Masking.hides_iff_conceals` — the values are hidden exactly in these bodies
* `Masking.shows_secret` — a body that is kept with a secret
* `AuditMiddleware.maskAndTruncate_eq_of_agree` — what is kept of a body
-/

open PyString

namespace OpenLangGraph

namespace Masking

/-! ### Bodies that differ in their secrets -/

mutual

/-- The values are equal but for what they have under sensitive keys. -/
def Agree (U : UnicodeDb) : Json → Json → Prop
  | .obj entries, data => ∃ entries', data = .obj entries' ∧ AgreeEntries U entries entries'
  | .arr items, data => ∃ items', data = .arr items' ∧ AgreeItems U items items'
  | .null, data => data = .null
  | .bool b, data => data = .bool b
  | .num x, data => data = .num x
  | .str s, data => data = .str s

def AgreeEntries (U : UnicodeDb) : List (String × Json) → List (String × Json) → Prop
  | [], entries' => entries' = []
  | (key, value) :: entries, entries' => ∃ value' rest, entries' = (key, value') :: rest ∧
      (isSensitiveKey U key = true ∨ Agree U value value') ∧ AgreeEntries U entries rest

def AgreeItems (U : UnicodeDb) : List Json → List Json → Prop
  | [], items' => items' = []
  | item :: items, items' => ∃ item' rest, items' = item' :: rest ∧ Agree U item item' ∧
      AgreeItems U items rest

end

mutual

/-- There is a sensitive key somewhere in the value. -/
def hasSensitiveKey (U : UnicodeDb) : Json → Bool
  | .obj entries => hasSensitiveEntry U entries
  | .arr items => hasSensitiveItem U items
  | .null | .bool _ | .num _ | .str _ => false

def hasSensitiveEntry (U : UnicodeDb) : List (String × Json) → Bool
  | [] => false
  | (key, value) :: entries =>
    isSensitiveKey U key || hasSensitiveKey U value || hasSensitiveEntry U entries

def hasSensitiveItem (U : UnicodeDb) : List Json → Bool
  | [] => false
  | item :: items => hasSensitiveKey U item || hasSensitiveItem U items

end

mutual

/-- Nothing that masking comes to, down to its greatest depth and among the items of a list that it
keeps, is taken for a notice and has a sensitive key. -/
def conceals (U : UnicodeDb) (depth : ℕ) (data : Json) : Bool :=
  if maxDepth ≤ depth then true
  else
    match data with
    | .obj entries => concealsEntries U (depth + 1) entries
    | .arr items => concealsItems U (depth + 1) maxListItems items
    | .null | .bool _ | .num _ | .str _ => true

def concealsEntries (U : UnicodeDb) (depth : ℕ) : List (String × Json) → Bool
  | [] => true
  | (key, value) :: entries =>
    (isSensitiveKey U key || conceals U depth value) && concealsEntries U depth entries

/-- The first `n` items. -/
def concealsItems (U : UnicodeDb) (depth : ℕ) : ℕ → List Json → Bool
  | 0, _ | _ + 1, [] => true
  | n + 1, item :: items =>
    (if isNotice item then !hasSensitiveKey U item else conceals U depth item) &&
      concealsItems U depth n items

end

variable {U : UnicodeDb}

/-! ### Agreement -/

theorem agreeEntries_refl {entries : List (String × Json)}
    (h : ∀ e ∈ entries, Agree U e.2 e.2) : AgreeEntries U entries entries := by
  induction entries with
  | nil => rfl
  | cons e entries ih =>
    obtain ⟨he, hs⟩ := List.forall_mem_cons.mp h
    exact ⟨e.2, entries, rfl, .inr he, ih hs⟩

theorem agreeItems_refl {items : List Json} (h : ∀ item ∈ items, Agree U item item) :
    AgreeItems U items items := by
  induction items with
  | nil => rfl
  | cons item items ih =>
    obtain ⟨hitem, hs⟩ := List.forall_mem_cons.mp h
    exact ⟨item, items, rfl, hitem, ih hs⟩

@[refl] theorem Agree.refl (data : Json) : Agree U data data := by
  induction data using Json.inductionOn with
  | null | bool | num | str => rfl
  | arr items ih => exact ⟨items, rfl, agreeItems_refl ih⟩
  | obj entries ih => exact ⟨entries, rfl, agreeEntries_refl ih⟩

theorem AgreeEntries.refl (entries : List (String × Json)) : AgreeEntries U entries entries :=
  agreeEntries_refl fun e _ => Agree.refl e.2

theorem AgreeItems.refl (items : List Json) : AgreeItems U items items :=
  agreeItems_refl fun item _ => Agree.refl item

theorem AgreeItems.length_eq {items items' : List Json} (h : AgreeItems U items items') :
    items'.length = items.length := by
  induction items generalizing items' with
  | nil => rw [show items' = [] from h]
  | cons item items ih =>
    obtain ⟨item', rest, rfl, -, h⟩ := h
    rw [List.length_cons, List.length_cons, ih h]

theorem Agree.truthy_eq {data data' : Json} (h : Agree U data data') :
    data'.truthy = data.truthy := by
  cases data with
  | obj entries =>
    obtain ⟨entries', rfl, h⟩ := h
    rcases entries with _ | ⟨⟨key, value⟩, entries⟩
    · rw [show entries' = [] from h]
    · obtain ⟨value', rest, rfl, -⟩ := h
      rfl
  | arr items =>
    obtain ⟨items', rfl, h⟩ := h
    rcases items with _ | ⟨item, items⟩
    · rw [show items' = [] from h]
    · obtain ⟨item', rest, rfl, -⟩ := h
      rfl
  | null | bool | num | str => rw [show data' = _ from h]

/-- The key of a notice is not sensitive. -/
theorem isSensitiveKey_truncated : isSensitiveKey U "_truncated" = false := by
  have hlower : U.lower "_truncated".toList = "_truncated".toList := by
    have hascii : "_truncated".toList.all (·.toNat < 128) = true := by decide
    rw [U.lower_ascii _ fun c hc => decide_eq_true_eq.mp (List.all_eq_true.mp hascii c hc)]
    decide
  rw [isSensitiveKey, hlower]
  split
  · rfl
  · decide

theorem AgreeEntries.lookup_truncated {entries entries' : List (String × Json)}
    (h : AgreeEntries U entries entries') :
    (entries'.lookup "_truncated").any Json.truthy =
      (entries.lookup "_truncated").any Json.truthy := by
  induction entries generalizing entries' with
  | nil => rw [show entries' = [] from h]
  | cons e entries ih =>
    obtain ⟨value', rest, rfl, hvalue, h⟩ := h
    rw [Json.lookup_cons, Json.lookup_cons]
    by_cases hkey : "_truncated" = e.1
    · have hagree : Agree U e.2 value' := hvalue.resolve_left (by
        rw [← hkey, isSensitiveKey_truncated]
        exact Bool.false_ne_true)
      rw [if_pos hkey, if_pos hkey, Option.any_some, Option.any_some, hagree.truthy_eq]
    · rw [if_neg hkey, if_neg hkey, ih h]

/-- What is taken for a notice does not depend on secrets. -/
theorem Agree.isNotice_eq {data data' : Json} (h : Agree U data data') :
    isNotice data' = isNotice data := by
  cases data with
  | obj entries =>
    obtain ⟨entries', rfl, h⟩ := h
    exact h.lookup_truncated
  | arr items =>
    obtain ⟨items', rfl, h⟩ := h
    rfl
  | null | bool | num | str => rw [show data' = _ from h]

/-! ### Values without sensitive keys -/

/-- Without a sensitive key there is nothing to differ in. -/
theorem Agree.eq_of_not_hasSensitiveKey {data data' : Json} (h : Agree U data data')
    (hdata : hasSensitiveKey U data = false) : data' = data := by
  induction data using Json.inductionOn generalizing data' with
  | null | bool | num | str => exact h
  | arr items ih =>
    obtain ⟨items', rfl, h⟩ := h
    rw [hasSensitiveKey] at hdata
    congr 1
    induction items generalizing items' with
    | nil => exact h
    | cons item items ihs =>
      obtain ⟨item', rest, rfl, hitem, h⟩ := h
      obtain ⟨hno, hnos⟩ := Bool.or_eq_false_iff.mp hdata
      obtain ⟨ih, ihr⟩ := List.forall_mem_cons.mp ih
      rw [ih hitem hno, ihs ihr hnos rest h]
  | obj entries ih =>
    obtain ⟨entries', rfl, h⟩ := h
    rw [hasSensitiveKey] at hdata
    congr 1
    induction entries generalizing entries' with
    | nil => exact h
    | cons e entries ihs =>
      obtain ⟨value', rest, rfl, hvalue, h⟩ := h
      obtain ⟨hno, hnos⟩ := Bool.or_eq_false_iff.mp hdata
      obtain ⟨hkey, hno⟩ := Bool.or_eq_false_iff.mp hno
      obtain ⟨ih, ihr⟩ := List.forall_mem_cons.mp ih
      have hagree := hvalue.resolve_left (by rw [hkey]; exact Bool.false_ne_true)
      rw [ih hagree hno, ihs ihr hnos rest h]

theorem exists_ne (data : Json) : ∃ data' : Json, data' ≠ data := by
  cases data with
  | null => exact ⟨.bool true, Json.noConfusion⟩
  | bool | num | str | arr | obj => exact ⟨.null, Json.noConfusion⟩

/-- With a sensitive key there is. -/
theorem exists_agree_ne {data : Json} (hdata : hasSensitiveKey U data = true) :
    ∃ data', Agree U data data' ∧ data' ≠ data := by
  induction data using Json.inductionOn with
  | null | bool | num | str => exact Bool.noConfusion hdata
  | arr items ih =>
    rw [hasSensitiveKey] at hdata
    suffices h : ∃ items', AgreeItems U items items' ∧ items' ≠ items by
      obtain ⟨items', h, hne⟩ := h
      exact ⟨.arr items', ⟨items', rfl, h⟩, fun heq => hne (Json.arr.inj heq)⟩
    induction items with
    | nil => exact Bool.noConfusion hdata
    | cons item items ihs =>
      obtain ⟨ih, ihr⟩ := List.forall_mem_cons.mp ih
      rcases Bool.or_eq_true_iff.mp hdata with hitem | hrest
      · obtain ⟨item', h, hne⟩ := ih hitem
        exact ⟨item' :: items, ⟨item', items, rfl, h, .refl items⟩,
          fun heq => hne (List.cons.inj heq).1⟩
      · obtain ⟨rest, h, hne⟩ := ihs ihr hrest
        exact ⟨item :: rest, ⟨item, rest, rfl, .refl item, h⟩,
          fun heq => hne (List.cons.inj heq).2⟩
  | obj entries ih =>
    rw [hasSensitiveKey] at hdata
    suffices h : ∃ entries', AgreeEntries U entries entries' ∧ entries' ≠ entries by
      obtain ⟨entries', h, hne⟩ := h
      exact ⟨.obj entries', ⟨entries', rfl, h⟩, fun heq => hne (Json.obj.inj heq)⟩
    induction entries with
    | nil => exact Bool.noConfusion hdata
    | cons e entries ihs =>
      obtain ⟨ih, ihr⟩ := List.forall_mem_cons.mp ih
      rcases Bool.or_eq_true_iff.mp hdata with hhead | hrest
      · obtain ⟨value', h, hne⟩ : ∃ value', (isSensitiveKey U e.1 = true ∨ Agree U e.2 value') ∧
            value' ≠ e.2 := by
          rcases Bool.or_eq_true_iff.mp hhead with hkey | hvalue
          · obtain ⟨value', hne⟩ := exists_ne e.2
            exact ⟨value', .inl hkey, hne⟩
          · obtain ⟨value', h, hne⟩ := ih hvalue
            exact ⟨value', .inr h, hne⟩
        exact ⟨(e.1, value') :: entries, ⟨value', entries, rfl, h, .refl entries⟩,
          fun heq => hne (congrArg Prod.snd (List.cons.inj heq).1)⟩
      · obtain ⟨rest, h, hne⟩ := ihs ihr hrest
        exact ⟨e :: rest, ⟨e.2, rest, rfl, .inr (.refl e.2), h⟩,
          fun heq => hne (List.cons.inj heq).2⟩

theorem hasSensitiveKey_eq_false_iff {data : Json} :
    hasSensitiveKey U data = false ↔ ∀ data', Agree U data data' → data' = data := by
  constructor
  · intro hdata data' h
    exact h.eq_of_not_hasSensitiveKey hdata
  · intro h
    by_contra hdata
    obtain ⟨data', hagree, hne⟩ := exists_agree_ne (Bool.eq_true_of_not_eq_false hdata)
    exact hne (h data' hagree)

/-! ### Masking two bodies -/

/-- The values that agree with this one are masked to the same. -/
def IsHidden (U : UnicodeDb) (depth : ℕ) (data : Json) : Prop :=
  ∀ data', Agree U data data' → maskSensitiveData U depth data' = maskSensitiveData U depth data

theorem length_maskItems (depth : ℕ) (items : List Json) :
    (maskItems U depth items).length = items.length := by
  induction items with
  | nil => rfl
  | cons item items ih => rw [maskItems, List.length_cons, List.length_cons, ih]

/-- A list is limited to its first items, and to its length. -/
theorem limitList_eq_iff {items items' : List Json} (h : items'.length = items.length) :
    limitList items' = limitList items ↔ items'.take maxListItems = items.take maxListItems := by
  rw [limitList, limitList, h]
  split
  · exact List.append_left_inj _
  · rename_i hle
    rw [List.take_of_length_le (by omega), List.take_of_length_le (by omega)]

/-- In a list, a value that is taken for a notice is hidden if it has no secret. -/
theorem item_hidden_iff {depth : ℕ} {item : Json}
    (ih : conceals U depth item = true ↔ IsHidden U depth item) :
    (if isNotice item then !hasSensitiveKey U item else conceals U depth item) = true ↔
      ∀ item', Agree U item item' →
        (if isNotice item' then item' else maskSensitiveData U depth item') =
          if isNotice item then item else maskSensitiveData U depth item := by
  by_cases hnotice : isNotice item = true
  · rw [if_pos hnotice, if_pos hnotice, Bool.not_eq_true', hasSensitiveKey_eq_false_iff]
    refine forall₂_congr fun item' h => ?_
    rw [if_pos (h.isNotice_eq.trans hnotice)]
  · rw [if_neg hnotice, if_neg hnotice, ih]
    refine forall₂_congr fun item' h => ?_
    rw [if_neg (h.isNotice_eq ▸ hnotice)]

theorem concealsItems_iff {depth : ℕ} {items : List Json}
    (ih : ∀ item ∈ items, ∀ depth, conceals U depth item = true ↔ IsHidden U depth item) (n : ℕ) :
    concealsItems U depth n items = true ↔ ∀ items', AgreeItems U items items' →
      (maskItems U depth items').take n = (maskItems U depth items).take n := by
  induction items generalizing n with
  | nil =>
    refine iff_of_true ?_ fun items' h => by rw [show items' = [] from h]
    cases n <;> rfl
  | cons item items ihs =>
    obtain ⟨ih, ihr⟩ := List.forall_mem_cons.mp ih
    rcases n with _ | n
    · exact iff_of_true rfl fun items' _ => by rw [List.take_zero, List.take_zero]
    · rw [concealsItems, Bool.and_eq_true, item_hidden_iff (ih depth), ihs ihr]
      constructor
      · rintro ⟨hitem, hrest⟩ items' ⟨item', rest, rfl, hagree, h⟩
        rw [maskItems, maskItems, List.take_succ_cons, List.take_succ_cons, hitem item' hagree,
          hrest rest h]
      · intro h
        constructor
        · intro item' hagree
          have hcons := h (item' :: items) ⟨item', items, rfl, hagree, .refl items⟩
          rw [maskItems, maskItems, List.take_succ_cons, List.take_succ_cons] at hcons
          exact (List.cons.inj hcons).1
        · intro rest hagree
          have hcons := h (item :: rest) ⟨item, rest, rfl, .refl item, hagree⟩
          rw [maskItems, maskItems, List.take_succ_cons, List.take_succ_cons] at hcons
          exact (List.cons.inj hcons).2

theorem concealsEntries_iff {depth : ℕ} {entries : List (String × Json)}
    (ih : ∀ e ∈ entries, ∀ depth, conceals U depth e.2 = true ↔ IsHidden U depth e.2) :
    concealsEntries U depth entries = true ↔ ∀ entries', AgreeEntries U entries entries' →
      maskEntries U depth entries' = maskEntries U depth entries := by
  induction entries with
  | nil => exact iff_of_true rfl fun entries' h => by rw [show entries' = [] from h]
  | cons e entries ihs =>
    obtain ⟨ih, ihr⟩ := List.forall_mem_cons.mp ih
    rw [concealsEntries, Bool.and_eq_true, Bool.or_eq_true, ih depth, ihs ihr]
    constructor
    · rintro ⟨hvalue, hrest⟩ entries' ⟨value', rest, rfl, hagree, h⟩
      rw [maskEntries, maskEntries, hrest rest h]
      by_cases hkey : isSensitiveKey U e.1 = true
      · rw [if_pos hkey, if_pos hkey]
      · rw [if_neg hkey, if_neg hkey,
          hvalue.resolve_left hkey value' (hagree.resolve_left hkey)]
    · intro h
      constructor
      · by_cases hkey : isSensitiveKey U e.1 = true
        · exact .inl hkey
        · refine .inr fun value' hagree => ?_
          have hcons := h ((e.1, value') :: entries)
            ⟨value', entries, rfl, .inr hagree, .refl entries⟩
          rw [maskEntries, maskEntries, if_neg hkey, if_neg hkey] at hcons
          exact congrArg Prod.snd (List.cons.inj hcons).1
      · intro rest hagree
        have hcons := h (e :: rest) ⟨e.2, rest, rfl, .inr (.refl e.2), hagree⟩
        rw [maskEntries, maskEntries] at hcons
        exact (List.cons.inj hcons).2

/-- Below the greatest depth there is nothing to see. -/
theorem conceals_iff_of_le {depth : ℕ} (hdepth : maxDepth ≤ depth) (data : Json) :
    conceals U depth data = true ↔ IsHidden U depth data := by
  have hdeep (data : Json) : maskSensitiveData U depth data = depthExceeded := by
    rw [maskSensitiveData.eq_def, if_pos hdepth]
  refine iff_of_true ?_ fun data' _ => (hdeep data').trans (hdeep data).symm
  rw [conceals.eq_def, if_pos hdepth]

theorem conceals_iff_isHidden (data : Json) :
    ∀ depth, conceals U depth data = true ↔ IsHidden U depth data := by
  induction data using Json.inductionOn with
  | null | bool | num | str =>
    intro depth
    by_cases hdepth : maxDepth ≤ depth
    · exact conceals_iff_of_le hdepth _
    · refine iff_of_true ?_ fun data' h => by rw [show data' = _ from h]
      rw [conceals, if_neg hdepth]
  | arr items ih =>
    intro depth
    by_cases hdepth : maxDepth ≤ depth
    · exact conceals_iff_of_le hdepth _
    · rw [conceals, if_neg hdepth, concealsItems_iff ih]
      have hlen {items' : List Json} (h : AgreeItems U items items') :
          (maskItems U (depth + 1) items').length = (maskItems U (depth + 1) items).length := by
        rw [length_maskItems, length_maskItems, h.length_eq]
      constructor
      · rintro h data' ⟨items', rfl, hagree⟩
        rw [maskSensitiveData, maskSensitiveData, if_neg hdepth, if_neg hdepth,
          (limitList_eq_iff (hlen hagree)).mpr (h items' hagree)]
      · intro h items' hagree
        have hmask := h (.arr items') ⟨items', rfl, hagree⟩
        rw [maskSensitiveData, maskSensitiveData, if_neg hdepth, if_neg hdepth] at hmask
        exact (limitList_eq_iff (hlen hagree)).mp (Json.arr.inj hmask)
  | obj entries ih =>
    intro depth
    by_cases hdepth : maxDepth ≤ depth
    · exact conceals_iff_of_le hdepth _
    · rw [conceals, if_neg hdepth, concealsEntries_iff ih]
      constructor
      · rintro h data' ⟨entries', rfl, hagree⟩
        rw [maskSensitiveData, maskSensitiveData, if_neg hdepth, if_neg hdepth, h entries' hagree]
      · intro h entries' hagree
        have hmask := h (.obj entries') ⟨entries', rfl, hagree⟩
        rw [maskSensitiveData, maskSensitiveData, if_neg hdepth, if_neg hdepth] at hmask
        exact Json.obj.inj hmask

/-- **Secrets.** The values under the sensitive keys of a body are hidden, that is, all bodies that
differ from it in such values only are masked to the same, exactly if the body has no sensitive key
in an item that is taken for a notice. -/
theorem hides_iff_conceals (U : UnicodeDb) (data : Json) :
    (∀ data', Agree U data data' → maskSensitiveData U 0 data' = maskSensitiveData U 0 data) ↔
      conceals U 0 data = true :=
  (conceals_iff_isHidden data 0).symm

/-- An item that says of itself that it is truncated. -/
def marked (secret : String) : Json :=
  .arr [.obj [("_truncated", .bool true), ("password", .str secret)]]

/-- It is kept with its password. -/
theorem shows_secret :
    ¬ ∀ (U : UnicodeDb) (data data' : Json), Agree U data data' →
      maskSensitiveData U 0 data' = maskSensitiveData U 0 data := by
  intro h
  have hagree : Agree .ascii (marked "a") (marked "b") := by
    refine ⟨_, rfl, _, _, rfl, ⟨_, rfl, _, _, rfl, .inr rfl, _, _, rfl, .inl ?_, rfl⟩, rfl⟩
    decide
  have hmask := h .ascii _ _ hagree
  have hsame (secret : String) : maskSensitiveData .ascii 0 (marked secret) = marked secret := rfl
  rw [hsame, hsame] at hmask
  simp [marked] at hmask

end Masking

namespace AuditMiddleware

/-- What is kept of a body does not depend on its secrets, if it conceals them. -/
theorem maskAndTruncate_eq_of_agree (env : Environment) {data data' : Json}
    (h : Masking.Agree env.unicode data data')
    (hdata : Masking.conceals env.unicode 0 data = true) :
    maskAndTruncate env data' = maskAndTruncate env data := by
  rw [maskAndTruncate, maskAndTruncate, h.truthy_eq,
    (Masking.conceals_iff_isHidden data 0).mp hdata data' h]

end AuditMiddleware

end OpenLangGraph

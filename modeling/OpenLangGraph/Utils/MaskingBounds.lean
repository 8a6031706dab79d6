import OpenLangGraph.Utils.Masking

/-!
# How large masked data is

Masking cuts strings and lists, and replaces what is nested too deep. The notice at the end of a
list that was cut is not masked again, and an item that the data already has is taken for a notice
if it has a truthy member `_truncated`. Such an item is kept as it is, whatever its size.

## Main definitions

* `Masking.isWithin` — strings, lists and nesting within the limits
* `Masking.fitsNotices` — the condition on the data: what is taken for a notice is within them

## Main results

* `Masking.isWithin_maskSensitiveData` — masked data is within the limits exactly then
* `Masking.long_notice` — data that is not
-/

open PyString

namespace OpenLangGraph

namespace Masking

mutual

/-- No string has more than `MAX_STRING_LENGTH` characters, no list more than `MAX_LIST_ITEMS + 1`
entries, and at most `levels` containers are nested. -/
def isWithin (levels : ℕ) : Json → Bool
  | .null | .bool _ | .num _ => true
  | .str value => value.length ≤ maxStringLength
  | .arr items =>
    1 ≤ levels && items.length ≤ maxListItems + 1 && isWithinItems (levels - 1) items
  | .obj entries => 1 ≤ levels && isWithinEntries (levels - 1) entries

def isWithinItems (levels : ℕ) : List Json → Bool
  | [] => true
  | item :: items => isWithin levels item && isWithinItems levels items

def isWithinEntries (levels : ℕ) : List (String × Json) → Bool
  | [] => true
  | (_, value) :: entries => isWithin levels value && isWithinEntries levels entries

end

/-- How many containers may be nested in the result, from this depth on. -/
def levels (depth : ℕ) : ℕ := maxDepth + 1 - depth

mutual

/-- Whatever masking comes to and takes for a notice, down to its greatest depth and among the items
of a list that it keeps, is within the limits. -/
def fitsNotices (U : UnicodeDb) (depth : ℕ) (data : Json) : Bool :=
  if maxDepth ≤ depth then true
  else
    match data with
    | .obj entries => fitsEntries U (depth + 1) entries
    | .arr items => fitsItems U (depth + 1) maxListItems items
    | .null | .bool _ | .num _ | .str _ => true

def fitsEntries (U : UnicodeDb) (depth : ℕ) : List (String × Json) → Bool
  | [] => true
  | (key, value) :: entries =>
    (isSensitiveKey U key || fitsNotices U depth value) && fitsEntries U depth entries

/-- The first `n` items. -/
def fitsItems (U : UnicodeDb) (depth : ℕ) : ℕ → List Json → Bool
  | 0, _ | _ + 1, [] => true
  | n + 1, item :: items =>
    (if isNotice item then isWithin (levels depth) item else fitsNotices U depth item) &&
      fitsItems U depth n items

end

variable {U : UnicodeDb} {depth : ℕ}

theorem one_le_levels (hdepth : depth ≤ maxDepth) : 1 ≤ levels depth := by
  rw [levels]
  omega

/-- A container takes one level. -/
theorem levels_sub_one (depth : ℕ) : levels depth - 1 = levels (depth + 1) := by
  rw [levels, levels]
  omega

/-! ### Strings and lists -/

theorem length_truncateString_le (value : String) :
    (truncateString value).length ≤ maxStringLength := by
  rw [truncateString]
  split
  · have htake : (value.toList.take (maxStringLength - truncatedSuffix.length)).length ≤
        maxStringLength - truncatedSuffix.length := List.length_take_le _ _
    have hsuffix : truncatedSuffix.length ≤ maxStringLength := by decide
    rw [String.length_append, String.length_ofList]
    omega
  · omega

theorem length_limitList_le (items : List Json) :
    (limitList items).length ≤ maxListItems + 1 := by
  rw [limitList]
  split
  · rw [List.length_append, List.length_singleton]
    have htake : (items.take maxListItems).length ≤ maxListItems := List.length_take_le _ _
    omega
  · omega

theorem isWithinItems_append (n : ℕ) (items items' : List Json) :
    isWithinItems n (items ++ items') = (isWithinItems n items && isWithinItems n items') := by
  induction items with
  | nil => rfl
  | cons item items ih => rw [List.cons_append, isWithinItems, isWithinItems, ih, Bool.and_assoc]

/-- A notice is one container, with a number and a flag. -/
theorem isWithin_truncationNotice {n : ℕ} (hn : 1 ≤ n) (length : ℕ) :
    isWithin n (truncationNotice length) = true := by
  have hlt : "_original_length" < "_truncated" := by decide
  rw [truncationNotice, Json.ofEntries, Json.insertEntries_cons, Json.insertEntries_cons,
    Json.insertEntries_nil, Json.insertEntry, Json.insertEntry, if_pos hlt, isWithin]
  simp [hn, isWithinEntries, isWithin]

/-- The list is cut, and gets a notice. -/
theorem isWithinItems_limitList {n : ℕ} (hn : 1 ≤ n) (items : List Json) :
    isWithinItems n (limitList items) = isWithinItems n (items.take maxListItems) := by
  rw [limitList]
  split
  · rw [isWithinItems_append, isWithinItems, isWithinItems, isWithin_truncationNotice hn]
    simp
  · rw [List.take_of_length_le (by omega)]

/-! ### Masked data -/

theorem isWithinItems_maskItems {n : ℕ} {items : List Json}
    (ih : ∀ item ∈ items, isWithin (levels depth) (maskSensitiveData U depth item) =
      fitsNotices U depth item) :
    isWithinItems (levels depth) ((maskItems U depth items).take n) =
      fitsItems U depth n items := by
  induction items generalizing n with
  | nil =>
    cases n with
    | zero => rfl
    | succ n => rfl
  | cons item items ihs =>
    cases n with
    | zero => rfl
    | succ n =>
      obtain ⟨hitem, hrest⟩ := List.forall_mem_cons.mp ih
      rw [maskItems, List.take_succ_cons, isWithinItems, fitsItems, ihs hrest, ← hitem]
      split
      · rfl
      · rfl

theorem isWithinEntries_maskEntries {entries : List (String × Json)}
    (ih : ∀ e ∈ entries, isWithin (levels depth) (maskSensitiveData U depth e.2) =
      fitsNotices U depth e.2) :
    isWithinEntries (levels depth) (maskEntries U depth entries) = fitsEntries U depth entries := by
  induction entries with
  | nil => rfl
  | cons e entries ihs =>
    obtain ⟨hvalue, hrest⟩ := List.forall_mem_cons.mp ih
    rw [maskEntries, isWithinEntries, fitsEntries, ihs hrest, ← hvalue]
    have hmask : isWithin (levels depth) maskValue = true := by
      rw [maskValue, isWithin]
      decide
    by_cases hkey : isSensitiveKey U e.1 = true
    · rw [if_pos hkey, hkey, hmask]
      rfl
    · rw [if_neg hkey, Bool.eq_false_iff.mpr hkey, Bool.false_or]

/-- What is nested too deep is replaced by one container. -/
theorem isWithin_of_eq_maxDepth (hdepth : depth = maxDepth) (data : Json) :
    isWithin (levels depth) (maskSensitiveData U depth data) = fitsNotices U depth data := by
  rw [maskSensitiveData.eq_def, fitsNotices.eq_def, if_pos hdepth.ge, if_pos hdepth.ge, hdepth]
  rfl

/-- **From any depth on.** -/
theorem isWithin_mask (U : UnicodeDb) (data : Json) :
    ∀ depth ≤ maxDepth, isWithin (levels depth) (maskSensitiveData U depth data) =
      fitsNotices U depth data := by
  induction data using Json.inductionOn with
  | null | bool | num =>
    intro depth hdepth
    rcases hdepth.eq_or_lt with heq | hlt
    · exact isWithin_of_eq_maxDepth heq _
    · rw [maskSensitiveData, fitsNotices, if_neg (by omega), if_neg (by omega), isWithin]
  | str value =>
    intro depth hdepth
    rcases hdepth.eq_or_lt with heq | hlt
    · exact isWithin_of_eq_maxDepth heq _
    · rw [maskSensitiveData, fitsNotices, if_neg (by omega), if_neg (by omega), isWithin]
      exact decide_eq_true (length_truncateString_le value)
  | arr items ih =>
    intro depth hdepth
    rcases hdepth.eq_or_lt with heq | hlt
    · exact isWithin_of_eq_maxDepth heq _
    · rw [maskSensitiveData, fitsNotices, if_neg (by omega), if_neg (by omega), isWithin,
        decide_eq_true (one_le_levels hdepth), decide_eq_true (length_limitList_le _),
        levels_sub_one, isWithinItems_limitList (one_le_levels hlt),
        isWithinItems_maskItems fun item hitem => ih item hitem (depth + 1) hlt]
      rfl
  | obj entries ih =>
    intro depth hdepth
    rcases hdepth.eq_or_lt with heq | hlt
    · exact isWithin_of_eq_maxDepth heq _
    · rw [maskSensitiveData, fitsNotices, if_neg (by omega), if_neg (by omega), isWithin,
        decide_eq_true (one_le_levels hdepth), levels_sub_one,
        isWithinEntries_maskEntries fun e he => ih e he (depth + 1) hlt]
      rfl

/-- **Masked data is within the limits** exactly if everything that is taken for a notice is. -/
theorem isWithin_maskSensitiveData (U : UnicodeDb) (data : Json) :
    isWithin (maxDepth + 1) (maskSensitiveData U 0 data) = true ↔
      fitsNotices U 0 data = true := by
  rw [← isWithin_mask U data 0 (Nat.zero_le _)]
  rfl

/-- An item that says of itself that it is truncated, with a string of 1001 characters. -/
theorem long_notice :
    ¬ ∀ (U : UnicodeDb) (data : Json),
      isWithin (maxDepth + 1) (maskSensitiveData U 0 data) = true := by
  intro h
  let note : String := String.ofList (List.replicate 1001 'x')
  have hwithin := h .ascii (.arr [.obj [("_truncated", .bool true), ("note", .str note)]])
  have hmask : maskSensitiveData .ascii 0
      (.arr [.obj [("_truncated", .bool true), ("note", .str note)]]) =
      .arr [.obj [("_truncated", .bool true), ("note", .str note)]] := rfl
  have hlength : note.length = 1001 := by
    rw [String.length_ofList, List.length_replicate]
  rw [hmask] at hwithin
  simp [isWithin, isWithinItems, isWithinEntries, hlength, maxStringLength] at hwithin

end Masking

end OpenLangGraph

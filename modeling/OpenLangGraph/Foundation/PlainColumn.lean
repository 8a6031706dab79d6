import Mathlib.Data.List.Defs

/-!
# A plain dictionary column of a loaded row

A session writes the attributes of a loaded row that have changed. Where the type of a column does
not track mutations, an attribute has changed if the object that was assigned to it differs from
the object that was loaded. An object that was loaded, edited in place and assigned again is
compared with itself.

So it matters which object `attribute or {}` is. If the loaded dictionary has entries, it is that
one; if it is empty, it is a new one.

## Main definitions

* `writeBack` — what is written after such an edit, if anything

## Main results

* `writeBack_of_ne_nil`, `getD_writeBack` — what the column holds then
-/

namespace PlainColumn

variable {κ ν : Type*}

/-- What `d = attribute or {}`, an edit of `d` in place, and `attribute = d` make a session write
to the column. -/
def writeBack (loaded : List (κ × ν)) (edit : List (κ × ν) → List (κ × ν)) :
    Option (List (κ × ν)) :=
  if loaded.isEmpty && !(edit []).isEmpty then some (edit []) else none

variable {loaded : List (κ × ν)} {edit : List (κ × ν) → List (κ × ν)}

theorem writeBack_of_ne_nil (h : loaded ≠ []) : writeBack loaded edit = none := by
  rw [writeBack, if_neg]
  simp [h]

theorem writeBack_nil (h : edit [] ≠ []) : writeBack [] edit = some (edit []) := by
  rw [writeBack, if_pos]
  simp [h]

/-- What the column holds, if it still held what was loaded. -/
theorem getD_writeBack (loaded : List (κ × ν)) (edit : List (κ × ν) → List (κ × ν)) :
    (writeBack loaded edit).getD loaded = if loaded = [] then edit [] else loaded := by
  by_cases hloaded : loaded = []
  · subst hloaded
    by_cases hedit : edit [] = []
    · simp [writeBack, hedit]
    · rw [writeBack_nil hedit, if_pos rfl, Option.getD_some]
  · rw [writeBack_of_ne_nil hloaded, if_neg hloaded, Option.getD_none]

end PlainColumn

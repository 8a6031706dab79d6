import Mathlib.Tactic.TypeStar

/-!
# Partial updates

A request may leave fields out. A field that was sent is to have the value that was sent, and any
other its previous value. A field that can be null is sent as `some none` when it is to be cleared,
so that clearing a field and leaving it out are told apart.

## Main definitions

* `AsSent` — what is asked of one field

## Main results

* `asSent_self_iff` — a field that keeps its value
-/

namespace PartialUpdate

variable {β : Type*}

/-- A field that was sent has the requested value, another its previous one. -/
def AsSent (sent : Option β) (old new : β) : Prop := new = sent.getD old

variable {sent : Option β} {old new value : β}

@[simp] theorem asSent_none : AsSent none old new ↔ new = old := Iff.rfl

@[simp] theorem asSent_some : AsSent (some value) old new ↔ new = value := Iff.rfl

/-- A field that keeps its value is as sent if that value is what was sent, if anything. -/
theorem asSent_self_iff : AsSent sent old old ↔ ∀ value, sent = some value → value = old := by
  cases sent <;> simp [eq_comm]

end PartialUpdate

import Mathlib.Data.List.Forall2

/-!
# Going through a list

A list whose items are all converted, where the conversion of an item may fail.

## Main results

* `mapM_eq_ok_iff` — the results, item by item
* `exists_mapM_eq_ok_iff` — when there are results
* `forall_mem_iff_of_forall₂` — from the items to their results
-/

namespace Traversal

variable {α β ε : Type} {f : α → Except ε β} {as : List α} {bs : List β}

theorem mapM_eq_ok_iff :
    as.mapM f = .ok bs ↔ List.Forall₂ (fun a b => f a = .ok b) as bs := by
  induction as generalizing bs with
  | nil =>
    rw [List.mapM_nil, List.forall₂_nil_left_iff]
    exact ⟨fun h => (Except.ok.inj h).symm, fun h => congrArg Except.ok h.symm⟩
  | cons a as ih =>
    rw [List.mapM_cons, List.forall₂_cons_left_iff]
    cases hfirst : f a with
    | error e =>
      constructor
      · intro h
        cases h
      · rintro ⟨b, bs, hb, -⟩
        cases hb
    | ok b =>
      cases hrest : as.mapM f with
      | error e =>
        constructor
        · intro h
          cases h
        · rintro ⟨b', bs', -, hbs', -⟩
          rw [← ih, hrest] at hbs'
          cases hbs'
      | ok bs₀ =>
        constructor
        · intro h
          exact ⟨b, bs₀, rfl, ih.mp hrest, (Except.ok.inj h).symm⟩
        · rintro ⟨b', bs', hb', hbs', rfl⟩
          rw [← ih, hrest] at hbs'
          rw [← Except.ok.inj hb', ← Except.ok.inj hbs']
          rfl

theorem exists_mem_of_forall₂ {R : α → β → Prop} (h : List.Forall₂ R as bs) {a : α}
    (ha : a ∈ as) : ∃ b ∈ bs, R a b := by
  induction h with
  | nil => cases ha
  | cons hfirst _ ih =>
    rcases List.mem_cons.mp ha with rfl | ha
    · exact ⟨_, List.mem_cons_self, hfirst⟩
    · obtain ⟨b, hb, hab⟩ := ih ha
      exact ⟨b, List.mem_cons_of_mem _ hb, hab⟩

/-- What is said of an item and of its result is said of all. -/
theorem forall_mem_iff_of_forall₂ {R : α → β → Prop} {P : α → Prop} {Q : β → Prop}
    (h : List.Forall₂ R as bs) (hPQ : ∀ a b, R a b → (P a ↔ Q b)) :
    (∀ a ∈ as, P a) ↔ ∀ b ∈ bs, Q b := by
  induction h with
  | nil => exact iff_of_true (List.forall_mem_nil _) (List.forall_mem_nil _)
  | cons hfirst _ ih => rw [List.forall_mem_cons, List.forall_mem_cons, hPQ _ _ hfirst, ih]

/-- There are results if every item has one. -/
theorem exists_mapM_eq_ok_iff : (∃ bs, as.mapM f = .ok bs) ↔ ∀ a ∈ as, ∃ b, f a = .ok b := by
  constructor
  · rintro ⟨bs, h⟩ a ha
    obtain ⟨b, -, hb⟩ := exists_mem_of_forall₂ (mapM_eq_ok_iff.mp h) ha
    exact ⟨b, hb⟩
  · intro h
    induction as with
    | nil => exact ⟨[], rfl⟩
    | cons a as ih =>
      obtain ⟨b, hb⟩ := h a List.mem_cons_self
      obtain ⟨bs, hbs⟩ := ih fun a ha => h a (List.mem_cons_of_mem _ ha)
      exact ⟨b :: bs, mapM_eq_ok_iff.mpr (.cons hb (mapM_eq_ok_iff.mp hbs))⟩

end Traversal

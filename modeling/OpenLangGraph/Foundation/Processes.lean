import Mathlib.Data.List.Basic

/-!
# Lists of processes

A system of many processes of one kind keeps their states in a list; a process is known by its
position, a step replaces one entry, and a new process is appended. These are the facts about
replacing one entry that invariants over all processes, and counts of processes, come down to.

## Main results

* `forall_set`, `forall_append` — a property of every process, after a step and after a start
* `getElem?_set_cases`, `eq_of_countP_le_one` — which process it was
* `countP_set_add` — how many processes are in a phase, after a step of one of them
-/

namespace Processes

variable {π : Type*} {l : List π} {i : ℕ} {x y : π}

/-- A property of every process holds after a step if it holds of the one that moved. -/
theorem forall_set {P : π → Prop} (hy : P y) (hl : ∀ p ∈ l, P p) : ∀ p ∈ l.set i y, P p := by
  intro p hp
  rcases List.mem_or_eq_of_mem_set hp with hp | rfl
  · exact hl p hp
  · exact hy

/-- A property of every process holds after a start if it holds of the new one. -/
theorem forall_append {P : π → Prop} (hy : P y) (hl : ∀ p ∈ l, P p) : ∀ p ∈ l ++ [y], P p := by
  intro p hp
  rcases List.mem_append.mp hp with hp | hp
  · exact hl p hp
  · exact List.mem_singleton.mp hp ▸ hy

/-- After a step, a process is the one that moved, or one at another position. -/
theorem getElem?_set_cases {j : ℕ} (h : (l.set i y)[j]? = some x) :
    (j = i ∧ x = y) ∨ (j ≠ i ∧ l[j]? = some x) := by
  by_cases hji : j = i
  · subst hji
    rw [List.getElem?_set_self'] at h
    obtain ⟨_, -, rfl⟩ := Option.map_eq_some_iff.mp h
    exact .inl ⟨rfl, rfl⟩
  · exact .inr ⟨hji, by rwa [List.getElem?_set_ne (Ne.symm hji)] at h⟩

theorem mem_set_cases (h : x ∈ l.set i y) : x = y ∨ ∃ j, j ≠ i ∧ l[j]? = some x := by
  obtain ⟨j, hj⟩ := List.mem_iff_getElem?.mp h
  rcases getElem?_set_cases hj with ⟨-, rfl⟩ | hother
  · exact .inl rfl
  · exact .inr ⟨j, hother⟩

theorem mem_set_self (h : l[i]? = some x) : y ∈ l.set i y :=
  List.mem_set (List.getElem?_eq_some_iff.mp h).1 y

theorem mem_set_of_ne {j : ℕ} (h : l[j]? = some x) (hne : j ≠ i) : x ∈ l.set i y :=
  List.mem_of_getElem? (i := j) (by rwa [List.getElem?_set_ne (Ne.symm hne)])

/-- After a start, a process is an old one or the new one. -/
theorem getElem?_append_cases {j : ℕ} (h : (l ++ [y])[j]? = some x) :
    l[j]? = some x ∨ (j = l.length ∧ x = y) := by
  rcases Nat.lt_or_ge j l.length with hj | hj
  · exact .inl (by rwa [List.getElem?_append_left hj] at h)
  · rw [List.getElem?_append_right hj] at h
    obtain ⟨hpos, hx⟩ := List.getElem?_eq_some_iff.mp h
    rw [List.length_singleton] at hpos
    exact .inr ⟨by omega, by rw [← hx, List.getElem_singleton]⟩

/-- A process in the phase is counted. -/
theorem one_le_countP {p : π → Bool} (h : x ∈ l) (hx : p x = true) : 1 ≤ l.countP p :=
  List.countP_pos_iff.mpr ⟨x, h, hx⟩

/-- One process moves from `x` to `y`: the number of processes in a phase changes by theirs. -/
theorem countP_set_add (p : π → Bool) (h : l[i]? = some x) :
    (l.set i y).countP p + (if p x then 1 else 0) = l.countP p + (if p y then 1 else 0) := by
  obtain ⟨hi, rfl⟩ := List.getElem?_eq_some_iff.mp h
  rw [List.countP_set hi]
  by_cases hp : p l[i] = true
  · have hpos := one_le_countP (List.getElem_mem hi) hp
    simp only [hp, if_true]
    omega
  · simp [hp]

/-- If one process at most is in a phase, it has one position. -/
theorem eq_of_countP_le_one {j : ℕ} {p : π → Bool} (h : l.countP p ≤ 1) (hi : l[i]? = some x)
    (hx : p x = true) (hj : l[j]? = some y) (hy : p y = true) : i = j := by
  induction l generalizing i j with
  | nil => simp at hi
  | cons z l ih =>
    rw [List.countP_cons] at h
    cases i with
    | zero =>
      cases j with
      | zero => rfl
      | succ j =>
        obtain rfl : z = x := by simpa using hi
        have := one_le_countP (List.mem_of_getElem? (by simpa using hj : l[j]? = some y)) hy
        rw [if_pos hx] at h
        omega
    | succ i =>
      have hi : l[i]? = some x := by simpa using hi
      cases j with
      | zero =>
        obtain rfl : z = y := by simpa using hj
        have := one_le_countP (List.mem_of_getElem? hi) hx
        rw [if_pos hy] at h
        omega
      | succ j => rw [ih (by omega) hi (by simpa using hj)]

end Processes

import Mathlib.Data.List.Basic

/-!
# Runs of a labelled transition function

A system is a function `step : σ → α → Option σ`: from a state and a label it either produces the
next state or is not enabled. All nondeterminism (which actor moves, what the outside world
answers) is in the label, so a run is a list of labels and can be executed.

## Conditional runs

Many laws of a concurrent system hold only of runs that avoid a bad step. `Along step P s as`
says that every step of the run from `s` along `as` meets `P`, a condition on the state *before*
the step and on its label. The invariant rule `exec_invariant` takes such a condition, and
`along_of_invariant` turns an invariant into a statement about every step of a run.

## Main definitions

* `exec` — execute a list of labels
* `Along` — every step of a run meets a condition

## Main results

* `exec_invariant`, `along_of_invariant` — the invariant rule, for states and for steps
* `forall_prefix_iff`, `forall_prefix_iff_along`, `forall_prefix_iff_along_of_invariant` — every
  state that a run reaches
* `exec_erase` — labels that a projection cannot see may be erased
-/

namespace Transition

variable {σ τ μ α : Type*}

/-! ### Executing a run -/

/-- Execute the labels in order; `none` as soon as one of them is not enabled. -/
def exec (step : σ → α → Option σ) : σ → List α → Option σ
  | s, [] => some s
  | s, a :: as => (step s a).bind fun s' => exec step s' as

variable {step : σ → α → Option σ}

@[simp] theorem exec_nil (s : σ) : exec step s [] = some s := rfl

theorem exec_cons (s : σ) (a : α) (as : List α) :
    exec step s (a :: as) = (step s a).bind fun s' => exec step s' as := rfl

theorem exec_cons_eq_some {s t : σ} {a : α} {as : List α} :
    exec step s (a :: as) = some t ↔ ∃ s', step s a = some s' ∧ exec step s' as = some t := by
  rw [exec_cons, Option.bind_eq_some_iff]

theorem exec_append (s : σ) (as bs : List α) :
    exec step s (as ++ bs) = (exec step s as).bind fun s' => exec step s' bs := by
  induction as generalizing s with
  | nil => rfl
  | cons a as ih =>
    rw [List.cons_append, exec_cons, exec_cons, Option.bind_assoc]
    exact congrArg _ (funext fun s' => ih s')

/-! ### Conditions on the steps of a run -/

/-- Every step of the run from `s` along `as` meets `P`. Once a label is not enabled the run has
ended, and nothing more is asked. -/
def Along (step : σ → α → Option σ) (P : σ → α → Prop) : σ → List α → Prop
  | _, [] => True
  | s, a :: as => P s a ∧ ∀ s', step s a = some s' → Along step P s' as

@[simp] theorem along_nil (P : σ → α → Prop) (s : σ) : Along step P s [] := trivial

theorem along_append {P : σ → α → Prop} {s : σ} {as bs : List α} :
    Along step P s (as ++ bs) ↔
      Along step P s as ∧ ∀ s', exec step s as = some s' → Along step P s' bs := by
  induction as generalizing s with
  | nil => simp
  | cons a as ih =>
    simp only [List.cons_append, Along, exec_cons_eq_some, ih]
    constructor
    · rintro ⟨ha, h⟩
      exact ⟨⟨ha, fun s' hs' => (h s' hs').1⟩, fun t ⟨s', hs', ht⟩ => (h s' hs').2 t ht⟩
    · rintro ⟨⟨ha, h⟩, hb⟩
      exact ⟨ha, fun s' hs' => ⟨h s' hs', fun t ht => hb t ⟨s', hs', ht⟩⟩⟩

theorem along_true (s : σ) (as : List α) : Along step (fun _ _ => True) s as := by
  induction as generalizing s with
  | nil => trivial
  | cons a as ih => exact ⟨trivial, fun s' _ => ih s'⟩

theorem along_of_forall {P : α → Prop} (s : σ) {as : List α} (h : ∀ a ∈ as, P a) :
    Along step (fun _ a => P a) s as := by
  induction as generalizing s with
  | nil => trivial
  | cons a as ih =>
    exact ⟨h a List.mem_cons_self, fun s' _ => ih s' fun b hb => h b (List.mem_cons_of_mem _ hb)⟩

theorem Along.mono {P Q : σ → α → Prop} (hPQ : ∀ s a, P s a → Q s a) {s : σ} {as : List α}
    (h : Along step P s as) : Along step Q s as := by
  induction as generalizing s with
  | nil => trivial
  | cons a as ih => exact ⟨hPQ _ _ h.1, fun s' hs => ih (h.2 s' hs)⟩

theorem Along.and {P Q : σ → α → Prop} {s : σ} {as : List α} (hP : Along step P s as)
    (hQ : Along step Q s as) : Along step (fun s a => P s a ∧ Q s a) s as := by
  induction as generalizing s with
  | nil => trivial
  | cons a as ih => exact ⟨⟨hP.1, hQ.1⟩, fun s' hs => ih (hP.2 s' hs) (hQ.2 s' hs)⟩

/-- Every step of a run is enabled. -/
theorem along_isSome {s t : σ} {as : List α} (h : exec step s as = some t) :
    Along step (fun s a => (step s a).isSome = true) s as := by
  induction as generalizing s with
  | nil => trivial
  | cons a as ih =>
    obtain ⟨s', hs', h⟩ := exec_cons_eq_some.mp h
    refine ⟨Option.isSome_of_mem hs', fun t ht => ?_⟩
    obtain rfl := Option.some.inj (hs'.symm.trans ht)
    exact ih h

instance decidableAlong {P : σ → α → Prop} [∀ s a, Decidable (P s a)] :
    ∀ (s : σ) (as : List α), Decidable (Along step P s as)
  | _, [] => isTrue trivial
  | s, a :: as =>
    match h : step s a with
    | none => decidable_of_iff (P s a) (by simp [Along, h])
    | some s' =>
      haveI := decidableAlong (P := P) s' as
      decidable_of_iff (P s a ∧ Along step P s' as) (by simp [Along, h])

/-- **The invariant rule.** What holds at the start and is preserved by every step that meets `P`
holds at the end of every run whose steps all meet `P`. -/
theorem exec_invariant {P : σ → α → Prop} {I : σ → Prop}
    (hstep : ∀ s a s', I s → P s a → step s a = some s' → I s') {s t : σ} {as : List α}
    (hs : I s) (hP : Along step P s as) (h : exec step s as = some t) : I t := by
  induction as generalizing s with
  | nil => exact Option.some.inj h ▸ hs
  | cons a as ih =>
    obtain ⟨s', hs', h⟩ := exec_cons_eq_some.mp h
    exact ih (hstep _ _ _ hs hP.1 hs') (hP.2 s' hs') h

/-- The invariant rule for steps: an invariant that makes every step good makes all steps of a
run good. -/
theorem along_of_invariant {P Q : σ → α → Prop} {I : σ → Prop}
    (hstep : ∀ s a s', I s → P s a → step s a = some s' → I s')
    (hQ : ∀ s a, I s → P s a → Q s a) {s : σ} {as : List α}
    (hs : I s) (hP : Along step P s as) : Along step Q s as := by
  induction as generalizing s with
  | nil => trivial
  | cons a as ih =>
    exact ⟨hQ _ _ hs hP.1, fun s' hs' => ih (hstep _ _ _ hs hP.1 hs') (hP.2 s' hs')⟩

/-- Two conditions on the steps that say the same of every step from the states of an invariant say
the same of a run, if the invariant lasts as long as they are met. -/
theorem along_iff_along {P Q : σ → α → Prop} {I : σ → Prop}
    (hQ : ∀ s a, I s → (Q s a ↔ P s a))
    (hstep : ∀ s a s', I s → Q s a → step s a = some s' → I s') {s : σ} {as : List α}
    (hs : I s) : Along step Q s as ↔ Along step P s as :=
  ⟨fun h => (along_of_invariant (Q := P) (I := I) hstep (fun s a hI => (hQ s a hI).mp) hs h),
    fun h => along_of_invariant (Q := Q) (I := I)
      (fun s a s' hI hP => hstep s a s' hI ((hQ s a hI).mpr hP))
      (fun s a hI => (hQ s a hI).mpr) hs h⟩

/-- What holds in every state that a run reaches is what holds at the start and after every step
of it. -/
theorem forall_prefix_iff {I : σ → Prop} {s : σ} {as : List α} :
    (∀ pre t, pre <+: as → exec step s pre = some t → I t) ↔
      I s ∧ Along step (fun s a => ∀ s', step s a = some s' → I s') s as := by
  induction as generalizing s with
  | nil =>
    constructor
    · exact fun h => ⟨h [] s List.prefix_rfl rfl, trivial⟩
    · rintro ⟨hs, -⟩ pre t hpre ht
      rw [List.prefix_nil.mp hpre] at ht
      exact Option.some.inj ht ▸ hs
  | cons a as ih =>
    constructor
    · intro h
      refine ⟨h [] s List.nil_prefix rfl, fun s' hs' => h [a] s' ⟨as, rfl⟩ ?_, fun s' hs' => ?_⟩
      · rw [exec_cons, hs']
        rfl
      · refine (ih.mp fun pre t hpre ht => h (a :: pre) t ?_ ?_).2
        · exact (List.prefix_cons_inj a).mpr hpre
        · exact exec_cons_eq_some.mpr ⟨s', hs', ht⟩
    · rintro ⟨hs, ha, hrest⟩ pre t hpre ht
      rcases List.prefix_cons_iff.mp hpre with rfl | ⟨pre', rfl, hpre'⟩
      · exact Option.some.inj ht ▸ hs
      · obtain ⟨s', hs', ht⟩ := exec_cons_eq_some.mp ht
        exact ih.mpr ⟨ha s' hs', hrest s' hs'⟩ pre' t hpre' ht

/-- **The exact condition.** If `I` holds after a step exactly if the step meets `P`, it holds in
every state that a run reaches exactly if all steps of the run meet `P`. -/
theorem forall_prefix_iff_along {P : σ → α → Prop} {S I : σ → Prop}
    (hS : ∀ s a s', S s → step s a = some s' → S s')
    (hI : ∀ s a s', S s → I s → step s a = some s' → (I s' ↔ P s a)) {s t : σ} {as : List α}
    (hs : S s) (hi : I s) (h : exec step s as = some t) :
    (∀ pre t, pre <+: as → exec step s pre = some t → I t) ↔ Along step P s as := by
  rw [forall_prefix_iff, and_iff_right hi]
  induction as generalizing s with
  | nil => exact Iff.rfl
  | cons a as ih =>
    obtain ⟨s', hs', h⟩ := exec_cons_eq_some.mp h
    constructor
    · rintro ⟨ha, hrest⟩
      have hi' : I s' := ha s' hs'
      refine ⟨(hI s a s' hs hi hs').mp hi', fun t ht => ?_⟩
      obtain rfl := Option.some.inj (hs'.symm.trans ht)
      exact (ih (hS s a s' hs hs') hi' h).mp (hrest s' hs')
    · rintro ⟨ha, hrest⟩
      have hi' : I s' := (hI s a s' hs hi hs').mpr ha
      refine ⟨fun t ht => ?_, fun t ht => ?_⟩
      · obtain rfl := Option.some.inj (hs'.symm.trans ht)
        exact hi'
      · obtain rfl := Option.some.inj (hs'.symm.trans ht)
        exact (ih (hS s a s' hs hs') hi' h).mpr (hrest s' hs')

/-- The exact condition, with an invariant that says more than `C`: it is kept by the steps that
meet `P`, and from its states `C` holds after these steps only. -/
theorem forall_prefix_iff_along_of_invariant {P : σ → α → Prop} {C I : σ → Prop}
    (hC : ∀ s, I s → C s) (hP : ∀ s a s', I s → step s a = some s' → C s' → P s a)
    (hI : ∀ s a s', I s → P s a → step s a = some s' → I s') {s t : σ} {as : List α}
    (hs : I s) (h : exec step s as = some t) :
    (∀ pre t, pre <+: as → exec step s pre = some t → C t) ↔ Along step P s as := by
  rw [forall_prefix_iff]
  constructor
  · rintro ⟨-, hall⟩
    have hmeets : ∀ s a, I s → (∀ s', step s a = some s' → C s') ∧ (step s a).isSome = true →
        P s a := by
      rintro s a hs ⟨hall, hsome⟩
      obtain ⟨s', hs'⟩ := Option.isSome_iff_exists.mp hsome
      exact hP s a s' hs hs' (hall s' hs')
    exact along_of_invariant (fun s a s' hs ha => hI s a s' hs (hmeets s a hs ha)) hmeets hs
      (hall.and (along_isSome h))
  · intro hall
    exact ⟨hC s hs, along_of_invariant hI (fun s a hs ha s' hs' => hC s' (hI s a s' hs ha hs')) hs
      hall⟩

/-! ### Comparing two systems -/

/-- **Erasure.** If the labels outside `keep` leave the projection `π` alone and those inside act
on it as `step'` does, then erasing the former from a run gives a run of `step'`. -/
theorem exec_erase {step' : τ → α → Option τ} {P : σ → α → Prop} {I : σ → Prop} (π : σ → τ)
    (keep : α → Bool)
    (hinv : ∀ s a s', I s → P s a → step s a = some s' → I s')
    (hskip : ∀ s a s', I s → P s a → keep a = false → step s a = some s' → π s' = π s)
    (hkeep : ∀ s a s', I s → P s a → keep a = true → step s a = some s' →
      step' (π s) a = some (π s'))
    {s t : σ} {as : List α} (hs : I s) (hP : Along step P s as) (h : exec step s as = some t) :
    exec step' (π s) (as.filter keep) = some (π t) := by
  induction as generalizing s with
  | nil => simpa using congrArg π (Option.some.inj h)
  | cons a as ih =>
    obtain ⟨s', hs', h⟩ := exec_cons_eq_some.mp h
    have hrest := ih (hinv _ _ _ hs hP.1 hs') (hP.2 s' hs') h
    cases hk : keep a with
    | false =>
      rw [List.filter_cons_of_neg (by simp [hk]), ← hskip _ _ _ hs hP.1 hk hs']
      exact hrest
    | true =>
      rw [List.filter_cons_of_pos (by simp [hk]), exec_cons, hkeep _ _ _ hs hP.1 hk hs']
      exact hrest

end Transition

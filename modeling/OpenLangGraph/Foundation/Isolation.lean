import OpenLangGraph.Foundation.ProgramReads

/-!
# Programs that need not know of each other

Of the programs that interleave some belong together. They see a part of the state, the *view*:
what they do next depends on it alone, and their writes do to it what they would do if there were
nothing else. The writes of the other programs leave it as it is. Then the others might as well not
take a single step: the ones that belong together would do the same, and end the same way.

## Invariants

Whether a read depends on the view alone may be true only in the states that occur. So both
conditions are asked in the states of an invariant, which every write of a program keeps.

## Main definitions

* `Program.SeesOnly` — what a program does next depends on a view of the state
* `Interleaving.keeps` — the steps of the programs that belong together
* `Interleaving.Agrees` — the same view, and the same programs that belong together

## Main results

* `Interleaving.invariant_of_calls` — an invariant that the writes of some kinds of programs keep
* `Interleaving.exec_kept` — the steps of the others can be left out
-/

namespace Program

variable {σ ω ε : Type}

/-- In the states of `I` the program reads nothing but the view. -/
def SeesOnly (I : σ → Prop) (view : σ → σ) : Program σ ω ε → Prop
  | .ended _ => True
  | .select next => ∀ s, I s → next (view s) = next s ∧ SeesOnly I view (next s)
  | .write _ next => SeesOnly I view next

variable {I S S' : σ → Prop} {view : σ → σ} {p q : Program σ ω ε} {statement : ω}

/-- So does what is left of it. -/
theorem SeesOnly.leads (h : SeesOnly I view p) (hleads : Leads I p q) : SeesOnly I view q := by
  induction hleads with
  | refl p => exact h
  | select hs _ ih => exact ih (h _ hs).2
  | write _ ih => exact ih h

theorem seesOnly_read {α : Type} {f : σ → Except ε α} {next : α → Program σ ω ε}
    (hf : ∀ s, I s → f (view s) = f s)
    (hnext : ∀ s a, I s → f s = .ok a → SeesOnly I view (next a)) :
    SeesOnly I view (read f next) := by
  intro s hs
  dsimp only
  rw [hf s hs]
  cases ha : f s with
  | error e => exact ⟨rfl, trivial⟩
  | ok a => exact ⟨rfl, hnext s a hs ha⟩

variable {apply : ω → σ → Except ε σ} {x x' : σ}

/-- A program that sees the view only makes the same statement on it. -/
theorem step_view (hsees : SeesOnly I view p) (hI : I x)
    (hwrite : ∀ statement, p.pending = some statement →
      (apply statement x).map view = apply statement (view x))
    (h : p.step apply x = some (x', q)) : p.step apply (view x) = some (view x', q) := by
  cases p with
  | ended result => cases h
  | select next =>
    cases h
    rw [step, (hsees x hI).1]
  | write statement next =>
    rw [step] at h ⊢
    rw [← hwrite statement rfl]
    cases happly : apply statement x with
    | error e =>
      rw [happly] at h
      cases h
      rfl
    | ok y =>
      rw [happly] at h
      cases h
      rfl

theorem Writes.mono (hS : ∀ s, S s → S' s) (h : Writes S p statement) : Writes S' p statement := by
  obtain ⟨rest, h⟩ := h
  exact ⟨rest, h.mono hS⟩

end Program

namespace Interleaving

open Transition Program

variable {σ ω ε γ : Type} {program : γ → Program σ ω ε} {apply : ω → σ → Except ε σ}
  {s t : Interleaving σ ω ε} {labels : List (InterleavingLabel γ ε)}

/-! ### Invariants -/

/-- **Invariants of the writes of some kinds of programs**, in all states that a run reaches. -/
theorem invariant_of_calls {I : σ → Prop} {P : γ → Prop}
    (hwrite : ∀ call statement x x', P call → I x → Writes I (program call) statement →
      apply statement x = .ok x' → I x')
    (hs : s.programs = []) (hinit : I s.state) (hcalls : ∀ call ∈ started labels, P call)
    (h : exec (step program apply) s labels = some t) :
    ∀ x, Seen program apply s labels x → I x := by
  induction labels using List.reverseRecOn generalizing t with
  | nil =>
    rintro x ⟨pre, u, hpre, hu, rfl⟩
    obtain rfl := List.prefix_nil.mp hpre
    obtain rfl := Option.some.inj hu
    exact hinit
  | append_singleton labels label ih =>
    have hall := h
    rw [exec_append] at h
    obtain ⟨u, hu, hlast⟩ := Option.bind_eq_some_iff.mp h
    obtain ⟨t', hstep, hend⟩ := exec_cons_eq_some.mp hlast
    obtain rfl := Option.some.inj hend
    have hcalls' : ∀ call ∈ started labels, P call := fun call hcall =>
      hcalls call (by rw [started, List.filterMap_append]; exact List.mem_append_left _ hcall)
    have hseen := ih hcalls' hu
    intro x hx
    rcases seen_append_singleton hall hx with hold | rfl
    · exact hseen x hold
    · rcases step_state_of_pending hstep with hsame | ⟨i, p, statement, -, hp, hpending, happly⟩
      · rw [hsame]
        exact hseen _ (seen_self hu)
      · obtain ⟨call, hcall, hwrites⟩ := writes_of_pending hs hu hp hpending
        exact hwrite call statement _ _ (hcalls' call (List.mem_of_getElem? hcall))
          (hseen _ (seen_self hu)) (hwrites.mono hseen) happly

/-- The write that comes next is one that the program comes to. -/
theorem Comes.writes {S : σ → Prop} {call : γ} {p : Program σ ω ε} {statement : ω}
    (h : Comes program S call p) (hpending : p.pending = some statement) :
    Writes S (program call) statement := by
  rcases h with hleads | ⟨e, rfl⟩
  · cases p with
    | ended result => cases hpending
    | select next => cases hpending
    | write first next =>
      cases hpending
      exact ⟨next, hleads⟩
  · cases hpending

/-! ### Leaving programs out -/

/-- All starts, and the steps of the programs that belong together. -/
def keeps (inside : γ → Bool) (calls : List γ) : InterleavingLabel γ ε → Bool
  | .start _ => true
  | .step i => calls[i]?.any inside
  | .fail i _ => calls[i]?.any inside

/-- The programs that belong together are the same, and so is what they see. -/
structure Agrees (view : σ → σ) (inside : γ → Bool) (calls : List γ)
    (t t' : Interleaving σ ω ε) : Prop where
  state : t'.state = view t.state
  length : t'.programs.length = t.programs.length
  programs : ∀ (i : ℕ) call, calls[i]? = some call → inside call = true →
    t'.programs[i]? = t.programs[i]?

variable {view : σ → σ} {inside : γ → Bool} {calls : List γ} {t' : Interleaving σ ω ε}

/-- A program that does not belong to the others changes. -/
theorem Agrees.set_left {x : σ} {i : ℕ} {p : Program σ ω ε} {call : γ}
    (h : Agrees view inside calls t t') (hcall : calls[i]? = some call)
    (hinside : inside call = false) (hx : view x = view t.state) :
    Agrees view inside calls ⟨x, t.programs.set i p⟩ t' where
  state := h.state.trans hx.symm
  length := by rw [List.length_set, h.length]
  programs := fun j call' hcall' hinside' => by
    have hne : i ≠ j := by
      rintro rfl
      rw [Option.some.inj (hcall.symm.trans hcall'), hinside'] at hinside
      cases hinside
    rw [List.getElem?_set_ne hne]
    exact h.programs j call' hcall' hinside'

/-- A program changes on both sides. -/
theorem Agrees.set_both {x : σ} {i : ℕ} {p : Program σ ω ε} (h : Agrees view inside calls t t') :
    Agrees view inside calls ⟨x, t.programs.set i p⟩ ⟨view x, t'.programs.set i p⟩ where
  state := rfl
  length := by rw [List.length_set, List.length_set, h.length]
  programs := fun j call hcall hinside => by
    rw [List.getElem?_set, List.getElem?_set, h.length, h.programs j call hcall hinside]

/-- **The steps of the others can be left out.** The programs that belong together do the same if
the others take no step, and find the view at the end that they find with them. -/
theorem exec_kept {I : σ → Prop} {P : γ → Prop}
    (hwrite : ∀ call statement x x', P call → I x → Writes I (program call) statement →
      apply statement x = .ok x' → I x')
    (hsees : ∀ call, P call → inside call = true → SeesOnly I view (program call))
    (hkept : ∀ call statement x, P call → inside call = true → I x →
      Writes I (program call) statement → (apply statement x).map view = apply statement (view x))
    (hleft : ∀ call statement x x', P call → inside call = false → I x →
      Writes I (program call) statement → apply statement x = .ok x' → view x' = view x)
    (hs : s.programs = []) (hinit : I s.state) (hcalls : ∀ call ∈ calls, P call)
    (hstarted : started labels <+: calls) (h : exec (step program apply) s labels = some t) :
    ∃ t', exec (step program apply) ⟨view s.state, []⟩ (labels.filter (keeps inside calls)) =
      some t' ∧ Agrees view inside calls t t' := by
  induction labels using List.reverseRecOn generalizing t with
  | nil =>
    obtain rfl := Option.some.inj h
    refine ⟨_, rfl, rfl, by rw [hs], fun i call _ _ => by rw [hs]⟩
  | append_singleton labels label ih =>
    rw [exec_append] at h
    obtain ⟨u, hu, hlast⟩ := Option.bind_eq_some_iff.mp h
    obtain ⟨t₁, hstep, hend⟩ := exec_cons_eq_some.mp hlast
    obtain rfl := Option.some.inj hend
    have happend : started (labels ++ [label]) = started labels ++ started [label] :=
      List.filterMap_append
    have hstarted' : started labels <+: calls := by
      rw [happend] at hstarted
      exact (List.prefix_append _ _).trans hstarted
    obtain ⟨u', hu', hagrees⟩ := ih hstarted' hu
    have hseen : ∀ x, Seen program apply s labels x → I x :=
      invariant_of_calls hwrite hs hinit (fun call hcall => hcalls call (hstarted'.subset hcall)) hu
    have hI : I u.state := hseen _ (seen_self hu)
    obtain ⟨hlength, hcomes⟩ := exec_leads hs hu
    -- a program of the run, with the call that it comes from
    have hposition : ∀ (i : ℕ) p, u.programs[i]? = some p → ∃ call, calls[i]? = some call ∧
        P call ∧ Comes program I call p := by
      intro i p hp
      obtain ⟨call, hcall, hp⟩ := hcomes i p hp
      have hcall' : calls[i]? = some call := by
        obtain ⟨rest, hrest⟩ := hstarted'
        rw [← hrest, List.getElem?_append_left (List.getElem?_eq_some_iff.mp hcall).1, hcall]
      exact ⟨call, hcall', hcalls call (List.mem_of_getElem? hcall'), hp.mono hseen⟩
    -- a label that is kept is executed at the end of the run that has been found
    have hlater : ∀ t', keeps inside calls label = true → step program apply u' label = some t' →
        exec (step program apply) ⟨view s.state, []⟩
          ((labels ++ [label]).filter (keeps inside calls)) = some t' := by
      intro t' hkeep hnext
      rw [List.filter_append, exec_append, hu', List.filter_cons_of_pos hkeep]
      exact exec_cons_eq_some.mpr ⟨t', hnext, rfl⟩
    have hdropped : keeps inside calls label = false → exec (step program apply)
        ⟨view s.state, []⟩ ((labels ++ [label]).filter (keeps inside calls)) = some u' := by
      intro hdrop
      rw [List.filter_append, List.filter_cons_of_neg (by simp [hdrop]), List.filter_nil,
        List.append_nil]
      exact hu'
    cases label with
    | start call =>
      cases hstep
      refine ⟨{ u' with programs := u'.programs ++ [program call] }, hlater _ rfl rfl,
        hagrees.state, by simp [hagrees.length], fun i call' hcall' hinside => ?_⟩
      have hold := hagrees.programs i call' hcall' hinside
      rw [List.getElem?_append, List.getElem?_append, hagrees.length, hold]
    | step i =>
      obtain ⟨p, hp, hstep⟩ := Option.bind_eq_some_iff.mp hstep
      obtain ⟨⟨x, p'⟩, hnext, rfl⟩ := Option.map_eq_some_iff.mp hstep
      obtain ⟨call, hcall, hP, hcome⟩ := hposition i p hp
      cases hinside : inside call with
      | true =>
        have hkeep : keeps (ε := ε) inside calls (.step i) = true := by simp [keeps, hcall, hinside]
        have hp' : u'.programs[i]? = some p := (hagrees.programs i call hcall hinside).trans hp
        have hsame : p.step apply (view u.state) = some (view x, p') := by
          rcases id hcome with hleads | ⟨e, rfl⟩
          · exact step_view ((hsees call hP hinside).leads hleads) hI (fun statement hpending =>
              hkept call statement _ hP hinside hI (hcome.writes hpending)) hnext
          · cases hnext
        refine ⟨⟨view x, u'.programs.set i p'⟩, hlater _ hkeep ?_, hagrees.set_both⟩
        show (u'.programs[i]?.bind _) = _
        rw [hp', Option.bind_some, hagrees.state, hsame]
        rfl
      | false =>
        have hdrop : keeps (ε := ε) inside calls (.step i) = false := by
          simp [keeps, hcall, hinside]
        refine ⟨u', hdropped hdrop, hagrees.set_left hcall hinside ?_⟩
        rcases step_eq_some hnext with rfl | ⟨statement, hpending, happly⟩
        · rfl
        · exact hleft call statement _ _ hP hinside hI (hcome.writes hpending) happly
    | fail i error =>
      obtain ⟨p, hp, rfl⟩ := Option.map_eq_some_iff.mp hstep
      obtain ⟨call, hcall, -, -⟩ := hposition i p hp
      cases hinside : inside call with
      | true =>
        have hp' : u'.programs[i]? = some p := (hagrees.programs i call hcall hinside).trans hp
        refine ⟨⟨view u.state, u'.programs.set i (.ended (.error error))⟩,
          hlater _ (by simp [keeps, hcall, hinside]) ?_, hagrees.set_both⟩
        show u'.programs[i]?.map _ = _
        rw [hp', ← hagrees.state]
        rfl
      | false =>
        exact ⟨u', hdropped (by simp [keeps, hcall, hinside]),
          hagrees.set_left hcall hinside rfl⟩

end Interleaving

import OpenLangGraph.Foundation.ProgramReads

/-!
# What a program may rely on, and what it guarantees

Between two statements of a program the others may write. What is agreed of their writes is a
relation `R` between the states before and after: time passes and does not return, a record grows.
A program relies on it from one of its statements to the next, so it knows how the states that it
has seen follow each other; and it guarantees it for its own writes, together with an invariant.

`Program.Valid` is read off the text of a program: every read and every write introduces a state
that is later than the one before. If it holds of all programs, the invariant holds in all states
that a run of them reaches, in whatever order their statements are made.

## Main definitions

* `Program.Valid` — what is to be shown of a program

## Main results

* `Program.Valid.of_later` — it stays true while the others write
* `Interleaving.invariant_of_valid` — an invariant of all runs
-/

namespace Program

variable {σ ω ε : Type}

/-- The program keeps the invariant and the relation, if the others do. The state is the one that
the program has seen last. -/
def Valid (R : σ → σ → Prop) (I : σ → Prop) (apply : ω → σ → Except ε σ) :
    Program σ ω ε → σ → Prop
  | .ended _, _ => True
  | .select next, s => ∀ s', R s s' → I s' → Valid R I apply (next s') s'
  | .write statement next, s => ∀ s' s'', R s s' → I s' → apply statement s' = .ok s'' →
      I s'' ∧ R s' s'' ∧ Valid R I apply next s''

variable {R : σ → σ → Prop} {I : σ → Prop} {apply : ω → σ → Except ε σ} {p p' : Program σ ω ε}
  {s s' : σ}

theorem Valid.of_later (htrans : ∀ x y z, R x y → R y z → R x z) (hs : R s s')
    (h : Valid R I apply p s) : Valid R I apply p s' := by
  cases p with
  | ended result => exact trivial
  | select next => exact fun t ht => h t (htrans _ _ _ hs ht)
  | write statement next => exact fun t t' ht => h t t' (htrans _ _ _ hs ht)

theorem valid_read {α : Type} {f : σ → Except ε α} {next : α → Program σ ω ε}
    (h : ∀ s' a, R s s' → I s' → f s' = .ok a → Valid R I apply (next a) s') :
    Valid R I apply (read f next) s := by
  intro s' hs' hI
  dsimp only
  cases ha : f s' with
  | error e => exact trivial
  | ok a => exact h s' a hs' hI ha

/-- A program on a larger state is valid if it is valid on its part. -/
theorem Valid.lift {τ υ : Type} {view : τ → σ} {embed : ω → υ} {apply' : υ → τ → Except ε τ}
    (happly : ∀ statement x x', apply' (embed statement) x = .ok x' →
      apply statement (view x) = .ok (view x')) {x : τ} (h : Valid R I apply p (view x)) :
    Valid (fun y y' => R (view y) (view y')) (fun y => I (view y)) apply' (p.lift view embed)
      x := by
  induction p generalizing x with
  | ended result => exact trivial
  | select next ih => exact fun y hy hI => ih _ (h (view y) hy hI)
  | write statement next ih =>
    intro y y' hy hI hwrite
    obtain ⟨hI', hR, hnext⟩ := h (view y) (view y') hy hI (happly _ _ _ hwrite)
    exact ⟨hI', hR, ih hnext⟩

/-- The next statement of a valid program. -/
theorem Valid.step (hrefl : ∀ x, R x x) (h : Valid R I apply p s) (hI : I s)
    (hstep : p.step apply s = some (s', p')) : I s' ∧ R s s' ∧ Valid R I apply p' s' := by
  cases p with
  | ended result => cases hstep
  | select next =>
    cases hstep
    exact ⟨hI, hrefl _, h _ (hrefl _) hI⟩
  | write statement next =>
    rw [Program.step] at hstep
    cases happly : apply statement s with
    | error e =>
      rw [happly] at hstep
      cases hstep
      exact ⟨hI, hrefl _, trivial⟩
    | ok t =>
      rw [happly] at hstep
      cases hstep
      exact h _ _ (hrefl _) hI happly

end Program

namespace Interleaving

open Transition Program

variable {σ ω ε γ : Type} {program : γ → Program σ ω ε} {apply : ω → σ → Except ε σ}
  {s t : Interleaving σ ω ε} {labels : List (InterleavingLabel γ ε)}

theorem started_of_mem {call : γ} (h : .start call ∈ labels) : call ∈ started labels :=
  List.mem_filterMap.mpr ⟨_, h, rfl⟩

/-- **Invariants of valid programs**, in every state that a run of them reaches. -/
theorem invariant_of_valid {R : σ → σ → Prop} {I : σ → Prop} {P : γ → Prop}
    (hrefl : ∀ x, R x x) (htrans : ∀ x y z, R x y → R y z → R x z)
    (hvalid : ∀ call x, P call → I x → Valid R I apply (program call) x) (hs : s.programs = [])
    (hinit : I s.state) (hcalls : ∀ call ∈ started labels, P call)
    (h : exec (step program apply) s labels = some t) : I t.state := by
  have hlabels : Along (step program apply)
      (fun _ (label : InterleavingLabel γ ε) => ∀ call, label = .start call → P call) s labels := by
    refine along_of_forall s fun label hlabel call hcall => hcalls call (started_of_mem ?_)
    exact hcall ▸ hlabel
  refine (exec_invariant (I := fun u => I u.state ∧ ∀ p ∈ u.programs, Valid R I apply p u.state)
    ?_ ⟨hinit, fun p hp => ?_⟩ hlabels h).1
  · rintro u label u' ⟨hI, hprograms⟩ hlabel hstep
    -- the programs that do not move rely on the step
    have hothers : ∀ (x : σ) (i : ℕ) (p : Program σ ω ε), R u.state x → Valid R I apply p x →
        ∀ q ∈ u.programs.set i p, Valid R I apply q x := fun x i p hx hp q hq => by
      rcases List.mem_or_eq_of_mem_set hq with hold | rfl
      · exact (hprograms q hold).of_later htrans hx
      · exact hp
    cases label with
    | start call =>
      cases hstep
      refine ⟨hI, fun p hp => ?_⟩
      rcases List.mem_append.mp hp with hold | hnew
      · exact hprograms p hold
      · rw [List.mem_singleton.mp hnew]
        exact hvalid call _ (hlabel call rfl) hI
    | step i =>
      obtain ⟨p, hp, hstep⟩ := Option.bind_eq_some_iff.mp hstep
      obtain ⟨⟨x, p'⟩, hnext, rfl⟩ := Option.map_eq_some_iff.mp hstep
      obtain ⟨hI', hx, hp'⟩ := (hprograms p (List.mem_of_getElem? hp)).step hrefl hI hnext
      exact ⟨hI', hothers x i p' hx hp'⟩
    | fail i error =>
      obtain ⟨p, -, rfl⟩ := Option.map_eq_some_iff.mp hstep
      exact ⟨hI, hothers _ i _ (hrefl _) trivial⟩
  · rw [hs] at hp
    cases hp

end Interleaving

import OpenLangGraph.Foundation.Processes
import OpenLangGraph.Foundation.Transition

/-!
# Programs that interleave at their statements

A program reads a shared state and writes to it, one statement at a time. Every read sees the state
as it is then, and a write takes effect at once, so between two statements of one program the others
may do anything: what a program has read may no longer hold when it writes.

## Invariants of the state

A property of the shared state that every write keeps holds along every run, whatever the programs
are. Often a write keeps the property only if a guard holds, which the program has checked before.
The rule `state_invariant` asks for the guard where it matters: in the state before the write.

## Main definitions

* `Program`, `Program.run` — a program, and what it does alone
* `Program.lift` — a program on a larger state
* `Interleaving`, `Interleaving.step` — programs that run at the same time, and may fail anywhere
* `Interleaving.guarded` — the guard of a write holds when the write is made

## Main results

* `Interleaving.state_invariant` — what every guarded write keeps holds after every run
* `Interleaving.forall_prefix_iff_guarded` — and if no other write keeps it, in no other run
-/

/-- A program of reads and writes. A write that fails ends the program. -/
inductive Program (σ ω ε : Type)
  | ended (result : Except ε Unit)
  | select (next : σ → Program σ ω ε)
  | write (statement : ω) (next : Program σ ω ε)

namespace Program

variable {σ ω ε α : Type}

/-- Read something, and end if it is an error. -/
def read (f : σ → Except ε α) (next : α → Program σ ω ε) : Program σ ω ε :=
  .select fun s =>
    match f s with
    | .error e => .ended (.error e)
    | .ok a => next a

/-- The write that comes next. -/
def pending : Program σ ω ε → Option ω
  | .write statement _ => some statement
  | _ => none

variable (apply : ω → σ → Except ε σ)

/-- What the program does if nothing else runs. -/
def run : Program σ ω ε → σ → σ × Except ε Unit
  | .ended result, s => (s, result)
  | .select next, s => run (next s) s
  | .write statement next, s =>
    match apply statement s with
    | .error e => (s, .error e)
    | .ok s' => run next s'

/-- The next statement. -/
def step : Program σ ω ε → σ → Option (σ × Program σ ω ε)
  | .ended _, _ => none
  | .select next, s => some (s, next s)
  | .write statement next, s =>
    match apply statement s with
    | .error e => some (s, .ended (.error e))
    | .ok s' => some (s', next)

variable {apply}

theorem run_read (f : σ → Except ε α) (next : α → Program σ ω ε) (s : σ) :
    (read f next).run apply s =
      match f s with
      | .error e => (s, .error e)
      | .ok a => (next a).run apply s := by
  rw [read, run]
  cases f s <;> rfl

/-- The program on a larger state, of which it reads a part. -/
def lift {τ υ : Type} (view : τ → σ) (embed : ω → υ) : Program σ ω ε → Program τ υ ε
  | .ended result => .ended result
  | .select next => .select fun t => lift view embed (next (view t))
  | .write statement next => .write (embed statement) (lift view embed next)

/-- It does on this part what it does. -/
theorem run_lift {τ υ : Type} {view : τ → σ} {embed : ω → υ} {apply' : υ → τ → Except ε τ}
    (happly : ∀ statement t, (apply' (embed statement) t).map view = apply statement (view t))
    (p : Program σ ω ε) (t : τ) :
    view ((p.lift view embed).run apply' t).1 = (p.run apply (view t)).1 := by
  induction p generalizing t with
  | ended result => rfl
  | select next ih => exact ih (view t) t
  | write statement next ih =>
    have hwrite := happly statement t
    rw [lift, run, run, ← hwrite]
    cases apply' (embed statement) t with
    | error e => rfl
    | ok t' => exact ih t'

/-- A statement changes the state only by the write that comes next. -/
theorem step_eq_some {p p' : Program σ ω ε} {s s' : σ} (h : p.step apply s = some (s', p')) :
    s' = s ∨ ∃ statement, p.pending = some statement ∧ apply statement s = .ok s' := by
  cases p with
  | ended result => cases h
  | select next =>
    cases h
    exact .inl rfl
  | write statement next =>
    rw [step] at h
    cases happly : apply statement s with
    | error e =>
      rw [happly] at h
      cases h
      exact .inl rfl
    | ok t =>
      rw [happly] at h
      cases h
      exact .inr ⟨statement, rfl, happly⟩

end Program

/-- Programs that run at the same time. -/
structure Interleaving (σ ω ε : Type) where
  state : σ
  programs : List (Program σ ω ε)

/-- A program starts, makes its next statement, or fails before it. -/
inductive InterleavingLabel (γ ε : Type)
  | start (call : γ)
  | step (i : ℕ)
  | fail (i : ℕ) (error : ε)

namespace Interleaving

open Transition

variable {σ ω ε γ : Type} (program : γ → Program σ ω ε) (apply : ω → σ → Except ε σ)

def step (s : Interleaving σ ω ε) : InterleavingLabel γ ε → Option (Interleaving σ ω ε)
  | .start call => some { s with programs := s.programs ++ [program call] }
  | .step i =>
    s.programs[i]?.bind fun p =>
      (p.step apply s.state).map fun next => ⟨next.1, s.programs.set i next.2⟩
  | .fail i error =>
    s.programs[i]?.map fun _ => { s with programs := s.programs.set i (.ended (.error error)) }

/-- If the step is a write, its guard holds. -/
def guarded (guard : σ → ω → Bool) (s : Interleaving σ ω ε) : InterleavingLabel γ ε → Bool
  | .step i => (s.programs[i]?.bind Program.pending).all (guard s.state)
  | _ => true

variable {program apply}

/-- A step leaves the state alone, or makes a write whose guard holds. -/
theorem step_state {guard : σ → ω → Bool} {s s' : Interleaving σ ω ε}
    {label : InterleavingLabel γ ε} (hguard : guarded guard s label = true)
    (h : step program apply s label = some s') :
    s'.state = s.state ∨
      ∃ statement, guard s.state statement = true ∧ apply statement s.state = .ok s'.state := by
  cases label with
  | start call =>
    cases h
    exact .inl rfl
  | step i =>
    obtain ⟨p, hp, hstep⟩ := Option.bind_eq_some_iff.mp h
    obtain ⟨⟨t, p'⟩, hnext, rfl⟩ := Option.map_eq_some_iff.mp hstep
    rcases Program.step_eq_some hnext with hsame | ⟨statement, hpending, happly⟩
    · exact .inl hsame
    · rw [guarded, hp, Option.bind_some, hpending] at hguard
      exact .inr ⟨statement, hguard, happly⟩
  | fail i error =>
    obtain ⟨p, -, rfl⟩ := Option.map_eq_some_iff.mp h
    exact .inl rfl

/-- **Invariants of the state.** What every write keeps when its guard holds, holds after every run
in which the guard of each write holds when the write is made. -/
theorem state_invariant {I : σ → Prop} {guard : σ → ω → Bool}
    (hwrite : ∀ s statement s', I s → guard s statement = true → apply statement s = .ok s' → I s')
    {s t : Interleaving σ ω ε} {labels : List (InterleavingLabel γ ε)} (hs : I s.state)
    (hguards : Along (step program apply) (fun s label => guarded guard s label = true) s labels)
    (h : exec (step program apply) s labels = some t) : I t.state := by
  refine exec_invariant (I := fun s => I s.state)
    (fun s label s' hs hguard hstep => ?_) hs hguards h
  rcases step_state hguard hstep with hsame | ⟨statement, hholds, happly⟩
  · exact hsame ▸ hs
  · exact hwrite _ statement _ hs hholds happly

/-- **The exact condition.** If a write keeps the property exactly if its guard holds, the property
holds in every state of a run exactly if the guard of each write holds when the write is made. -/
theorem forall_prefix_iff_guarded {I : σ → Prop} {guard : σ → ω → Bool}
    (hwrite : ∀ s statement s', I s → apply statement s = .ok s' →
      (I s' ↔ guard s statement = true))
    (herror : ∀ s statement e, apply statement s = .error e → guard s statement = true)
    {s t : Interleaving σ ω ε} {labels : List (InterleavingLabel γ ε)} (hs : I s.state)
    (h : exec (step program apply) s labels = some t) :
    (∀ pre t, pre <+: labels → exec (step program apply) s pre = some t → I t.state) ↔
      Along (step program apply) (fun s label => guarded guard s label = true) s labels := by
  refine forall_prefix_iff_along (S := fun _ => True) (fun _ _ _ _ _ => trivial)
    (fun s label s' _ hs hstep => ?_) trivial hs h
  cases label with
  | start call =>
    cases hstep
    exact iff_of_true hs rfl
  | step i =>
    obtain ⟨p, hp, hstep⟩ := Option.bind_eq_some_iff.mp hstep
    obtain ⟨⟨t, p'⟩, hnext, rfl⟩ := Option.map_eq_some_iff.mp hstep
    rw [guarded, hp, Option.bind_some]
    cases p with
    | ended result => cases hnext
    | select next =>
      cases hnext
      exact iff_of_true hs rfl
    | write statement next =>
      rw [Program.step] at hnext
      rw [Program.pending, Option.all_some]
      cases happly : apply statement s.state with
      | error e =>
        rw [happly] at hnext
        cases hnext
        exact iff_of_true hs (herror _ _ _ happly)
      | ok t' =>
        rw [happly] at hnext
        cases hnext
        exact hwrite _ _ _ hs happly
  | fail i error =>
    obtain ⟨p, -, rfl⟩ := Option.map_eq_some_iff.mp hstep
    exact iff_of_true hs rfl

end Interleaving

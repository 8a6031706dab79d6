import Mathlib.Data.List.Induction
import OpenLangGraph.Foundation.Interleaving

/-!
# What a program has read before it writes

Between two statements of a program the others may do anything, so what it has read need not hold
any more when it writes. It did hold once: every read of a program saw a state that the run had
reached by then. A program that comes to a write has therefore passed each of its checks in some
state of the run, and the checks can be read off its text.

## Scope

Nothing is said about *when* a check was passed, and two checks of one program may have been passed
in different states. A check that must still hold at the write is the business of a guard.

## Main definitions

* `Program.Leads` — what is left of a program whose reads saw certain states
* `Program.Writes` — a program comes to a write
* `Interleaving.Seen` — the states that a run has reached
* `Interleaving.started` — the programs that have been started

## Main results

* `Program.writes_read`, `Program.writes_write`, `Program.writes_ended` — read off the text
* `Interleaving.exec_leads` — every program of a run is what is left of the one that was started
* `Interleaving.writes_of_pending` — a write that comes next was checked in states of the run
* `Interleaving.invariant_of_writes` — invariants that writes keep because of what was checked
-/

namespace Program

variable {σ ω ε : Type}

/-- `q` is what is left of `p` after some of its statements, where its reads saw states of `S`. -/
inductive Leads (S : σ → Prop) : Program σ ω ε → Program σ ω ε → Prop
  | refl (p : Program σ ω ε) : Leads S p p
  | select {next : σ → Program σ ω ε} {q : Program σ ω ε} {s : σ} (hs : S s)
      (h : Leads S (next s) q) : Leads S (.select next) q
  | write {statement : ω} {next q : Program σ ω ε} (h : Leads S next q) :
      Leads S (.write statement next) q

/-- The program comes to this write. -/
def Writes (S : σ → Prop) (p : Program σ ω ε) (statement : ω) : Prop :=
  ∃ rest, Leads S p (.write statement rest)

variable {S S' : σ → Prop} {p q r : Program σ ω ε} {statement statement' : ω}

theorem Leads.trans (hpq : Leads S p q) (hqr : Leads S q r) : Leads S p r := by
  induction hpq with
  | refl p => exact hqr
  | select hs _ ih => exact .select hs (ih hqr)
  | write _ ih => exact .write (ih hqr)

theorem Leads.mono (hS : ∀ s, S s → S' s) (h : Leads S p q) : Leads S' p q := by
  induction h with
  | refl p => exact .refl p
  | select hs _ ih => exact .select (hS _ hs) ih
  | write _ ih => exact .write ih

/-! ### Reading the checks off the text -/

theorem writes_ended (result : Except ε Unit) :
    ¬ Writes S (.ended result : Program σ ω ε) statement := by
  rintro ⟨rest, h⟩
  cases h

theorem writes_select {next : σ → Program σ ω ε} :
    Writes S (.select next) statement ↔ ∃ s, S s ∧ Writes S (next s) statement := by
  constructor
  · rintro ⟨rest, h⟩
    cases h with
    | select hs h => exact ⟨_, hs, rest, h⟩
  · rintro ⟨s, hs, rest, h⟩
    exact ⟨rest, .select hs h⟩

/-- The write comes next, or later. -/
theorem writes_write {next : Program σ ω ε} :
    Writes S (.write statement' next) statement ↔
      statement = statement' ∨ Writes S next statement := by
  constructor
  · rintro ⟨rest, h⟩
    cases h with
    | refl => exact .inl rfl
    | write h => exact .inr ⟨rest, h⟩
  · rintro (rfl | ⟨rest, h⟩)
    · exact ⟨next, .refl _⟩
    · exact ⟨rest, .write h⟩

/-- A read before the write did not fail, in some state. -/
theorem writes_read {α : Type} {f : σ → Except ε α} {next : α → Program σ ω ε} :
    Writes S (read f next) statement ↔
      ∃ s a, S s ∧ f s = .ok a ∧ Writes S (next a) statement := by
  rw [read, writes_select]
  constructor
  · rintro ⟨s, hs, h⟩
    cases hf : f s with
    | error e =>
      rw [hf] at h
      exact absurd h (writes_ended _)
    | ok a =>
      rw [hf] at h
      exact ⟨s, a, hs, hf, h⟩
  · rintro ⟨s, a, hs, hf, h⟩
    refine ⟨s, hs, ?_⟩
    rw [hf]
    exact h

/-- A program on a part of the state makes writes of its own kind. -/
theorem exists_of_writes_lift {τ υ : Type} {T : τ → Prop} {view : τ → σ} {embed : ω → υ}
    {statement : υ} (h : Writes T (p.lift view embed) statement) :
    ∃ own, statement = embed own := by
  induction p with
  | ended result => exact absurd h (writes_ended _)
  | select next ih =>
    obtain ⟨t, -, h⟩ := writes_select.mp h
    exact ih (view t) h
  | write own next ih =>
    rcases writes_write.mp h with rfl | h
    · exact ⟨own, rfl⟩
    · exact ih h

/-- The program with its errors as those of a larger system. -/
def mapError {ε' : Type} (f : ε → ε') : Program σ ω ε → Program σ ω ε'
  | .ended result => .ended (result.mapError f)
  | .select next => .select fun s => mapError f (next s)
  | .write statement next => .write statement (mapError f next)

/-- It makes the same writes. -/
theorem writes_of_mapError {ε' : Type} {f : ε → ε'} (h : Writes S (p.mapError f) statement) :
    Writes S p statement := by
  induction p with
  | ended result => exact absurd h (writes_ended _)
  | select next ih =>
    obtain ⟨s, hs, h⟩ := writes_select.mp h
    exact writes_select.mpr ⟨s, hs, ih s h⟩
  | write own next ih => exact writes_write.mpr ((writes_write.mp h).imp_right ih)

end Program

namespace Interleaving

open Transition Program

variable {σ ω ε γ : Type} (program : γ → Program σ ω ε) (apply : ω → σ → Except ε σ)

/-- The states that the run from `s` along `labels` has reached. -/
def Seen (s : Interleaving σ ω ε) (labels : List (InterleavingLabel γ ε)) (x : σ) : Prop :=
  ∃ pre u, pre <+: labels ∧ exec (step program apply) s pre = some u ∧ u.state = x

variable {program apply} {s t u : Interleaving σ ω ε} {labels : List (InterleavingLabel γ ε)}

theorem seen_self (h : exec (step program apply) s labels = some t) :
    Seen program apply s labels t.state :=
  ⟨labels, t, List.prefix_rfl, h, rfl⟩

theorem Seen.append {more : List (InterleavingLabel γ ε)} {x : σ}
    (h : Seen program apply s labels x) : Seen program apply s (labels ++ more) x := by
  obtain ⟨pre, u, hpre, hu, hx⟩ := h
  exact ⟨pre, u, hpre.trans (List.prefix_append labels more), hu, hx⟩

/-- The programs that have been started, in the order of their positions. -/
def started (labels : List (InterleavingLabel γ ε)) : List γ :=
  labels.filterMap fun
    | .start call => some call
    | .step _ => none
    | .fail _ _ => none

theorem mem_of_started {call : γ} {i : ℕ} (h : (started labels)[i]? = some call) :
    .start call ∈ labels := by
  obtain ⟨label, hlabel, hcall⟩ := List.mem_filterMap.mp (List.mem_of_getElem? h)
  cases label with
  | start call' =>
    cases hcall
    exact hlabel
  | step i => cases hcall
  | fail i error => cases hcall

/-- What a program can be in a run: what is left of the one that was started, or failed. -/
def Comes (program : γ → Program σ ω ε) (S : σ → Prop) (call : γ) (p : Program σ ω ε) : Prop :=
  Leads S (program call) p ∨ ∃ e, p = .ended (.error e)

theorem Comes.mono {S S' : σ → Prop} {call : γ} {p : Program σ ω ε} (hS : ∀ x, S x → S' x)
    (h : Comes program S call p) : Comes program S' call p :=
  h.imp_left (Leads.mono hS)

/-- The next statement of a program, in a state of `S`. -/
theorem Comes.step {S : σ → Prop} {call : γ} {p p' : Program σ ω ε} {x x' : σ} (hx : S x)
    (h : Comes program S call p) (hstep : p.step apply x = some (x', p')) :
    Comes program S call p' := by
  rcases h with hleads | ⟨e, rfl⟩
  · cases p with
    | ended result => cases hstep
    | select next =>
      cases hstep
      exact .inl (hleads.trans (.select hx (.refl _)))
    | write statement next =>
      rw [Program.step] at hstep
      cases happly : apply statement x with
      | error e =>
        rw [happly] at hstep
        cases hstep
        exact .inr ⟨e, rfl⟩
      | ok y =>
        rw [happly] at hstep
        cases hstep
        exact .inl (hleads.trans (.write (.refl _)))
  · cases hstep

/-- **Where the programs of a run come from.** Each is what is left of the one that was started at
its position, and whatever it has read it read in a state that the run had reached. -/
theorem exec_leads (hs : s.programs = []) (h : exec (step program apply) s labels = some t) :
    t.programs.length = (started labels).length ∧ ∀ (i : ℕ) p, t.programs[i]? = some p →
      ∃ call, (started labels)[i]? = some call ∧
        Comes program (Seen program apply s labels) call p := by
  induction labels using List.reverseRecOn generalizing t with
  | nil =>
    obtain rfl := Option.some.inj h
    refine ⟨by rw [hs]; rfl, fun i p hp => ?_⟩
    rw [hs] at hp
    cases hp
  | append_singleton labels label ih =>
    rw [exec_append] at h
    obtain ⟨u, hu, hlast⟩ := Option.bind_eq_some_iff.mp h
    obtain ⟨t', hstep, hend⟩ := exec_cons_eq_some.mp hlast
    obtain rfl := Option.some.inj hend
    obtain ⟨hlength, hcomes⟩ := ih hu
    have hold : ∀ (i : ℕ) p, u.programs[i]? = some p → ∃ call, (started labels)[i]? = some call ∧
        Comes program (Seen program apply s (labels ++ [label])) call p := fun i p hp => by
      obtain ⟨call, hcall, hp⟩ := hcomes i p hp
      exact ⟨call, hcall, hp.mono fun x => Seen.append⟩
    have happend : started (labels ++ [label]) = started labels ++ started [label] :=
      List.filterMap_append
    cases label with
    | start call =>
      cases hstep
      rw [happend]
      refine ⟨by simp [started, hlength], fun i p hp => ?_⟩
      rcases Processes.getElem?_append_cases hp with hbefore | ⟨rfl, rfl⟩
      · obtain ⟨call', hcall', hp⟩ := hold i p hbefore
        have hi := (List.getElem?_eq_some_iff.mp hcall').1
        exact ⟨call', by rw [List.getElem?_append_left hi, hcall'], hp⟩
      · refine ⟨call, ?_, .inl (.refl _)⟩
        rw [hlength, List.getElem?_append_right (Nat.le_refl _), Nat.sub_self]
        rfl
    | step i =>
      obtain ⟨p, hp, hstep⟩ := Option.bind_eq_some_iff.mp hstep
      obtain ⟨⟨x, p'⟩, hnext, rfl⟩ := Option.map_eq_some_iff.mp hstep
      rw [happend, show started [.step i] = ([] : List γ) from rfl, List.append_nil]
      refine ⟨by rw [List.length_set, hlength], fun j q hq => ?_⟩
      rcases Processes.getElem?_set_cases hq with ⟨rfl, rfl⟩ | ⟨-, hbefore⟩
      · obtain ⟨call, hcall, hp⟩ := hold j p hp
        exact ⟨call, hcall, hp.step (seen_self hu).append hnext⟩
      · exact hold j q hbefore
    | fail i error =>
      obtain ⟨p, hp, rfl⟩ := Option.map_eq_some_iff.mp hstep
      rw [happend, show started [.fail i error] = ([] : List γ) from rfl, List.append_nil]
      refine ⟨by rw [List.length_set, hlength], fun j q hq => ?_⟩
      rcases Processes.getElem?_set_cases hq with ⟨rfl, rfl⟩ | ⟨-, hbefore⟩
      · obtain ⟨call, hcall, -⟩ := hold j p hp
        exact ⟨call, hcall, .inr ⟨error, rfl⟩⟩
      · exact hold j q hbefore

/-- **A write was checked.** A program that is about to write has passed the checks before this
write, each in a state that the run had reached. -/
theorem writes_of_pending {i : ℕ} {p : Program σ ω ε} {statement : ω} (hs : s.programs = [])
    (h : exec (step program apply) s labels = some t) (hp : t.programs[i]? = some p)
    (hpending : p.pending = some statement) :
    ∃ call, (started labels)[i]? = some call ∧
      Writes (Seen program apply s labels) (program call) statement := by
  obtain ⟨call, hcall, hleads | ⟨e, rfl⟩⟩ := (exec_leads hs h).2 i p hp
  · cases p with
    | ended result => cases hpending
    | select next => cases hpending
    | write first next =>
      cases hpending
      exact ⟨call, hcall, next, hleads⟩
  · cases hpending

/-! ### Invariants of checked writes -/

theorem seen_append_singleton {label : InterleavingLabel γ ε} {x : σ}
    (h : exec (step program apply) s (labels ++ [label]) = some t)
    (hx : Seen program apply s (labels ++ [label]) x) :
    Seen program apply s labels x ∨ x = t.state := by
  obtain ⟨pre, u, hpre, hu, rfl⟩ := hx
  rcases List.prefix_concat_iff.mp hpre with rfl | hpre
  · rw [h] at hu
    exact .inr (congrArg state (Option.some.inj hu).symm)
  · exact .inl ⟨pre, u, hpre, hu, rfl⟩

/-- A step leaves the state alone, or makes the write that comes next. -/
theorem step_state_of_pending {label : InterleavingLabel γ ε}
    (h : step program apply u label = some t) :
    t.state = u.state ∨ ∃ (i : ℕ) (p : Program σ ω ε) (statement : ω), label = .step i ∧
      u.programs[i]? = some p ∧ p.pending = some statement ∧
      apply statement u.state = .ok t.state := by
  cases label with
  | start call =>
    cases h
    exact .inl rfl
  | step i =>
    obtain ⟨p, hp, hstep⟩ := Option.bind_eq_some_iff.mp h
    obtain ⟨⟨x, p'⟩, hnext, rfl⟩ := Option.map_eq_some_iff.mp hstep
    rcases Program.step_eq_some hnext with hsame | ⟨statement, hpending, happly⟩
    · exact .inl hsame
    · exact .inr ⟨i, p, statement, rfl, hp, hpending, happly⟩
  | fail i error =>
    obtain ⟨p, -, rfl⟩ := Option.map_eq_some_iff.mp h
    exact .inl rfl

/-- **Invariants of checked writes.** `R` relates the states before and after each write, so that
what was true of a state that a program has read says something of the state in which it writes. -/
theorem invariant_of_writes {I : σ → Prop} {R : σ → σ → Prop} (hrefl : ∀ x, R x x)
    (htrans : ∀ x y z, R x y → R y z → R x z)
    (hR : ∀ statement x x', apply statement x = .ok x' → R x x')
    (hwrite : ∀ (S : σ → Prop) call statement x x', (∀ y, S y → I y ∧ R y x) → I x →
      Writes S (program call) statement → apply statement x = .ok x' → I x')
    (hs : s.programs = []) (hinit : I s.state)
    (h : exec (step program apply) s labels = some t) :
    I t.state ∧ ∀ y, Seen program apply s labels y → I y ∧ R y t.state := by
  induction labels using List.reverseRecOn generalizing t with
  | nil =>
    obtain rfl := Option.some.inj h
    refine ⟨hinit, ?_⟩
    rintro y ⟨pre, u, hpre, hu, rfl⟩
    obtain rfl := List.prefix_nil.mp hpre
    obtain rfl := Option.some.inj hu
    exact ⟨hinit, hrefl _⟩
  | append_singleton labels label ih =>
    have hall := h
    rw [exec_append] at h
    obtain ⟨u, hu, hlast⟩ := Option.bind_eq_some_iff.mp h
    obtain ⟨t', hstep, hend⟩ := exec_cons_eq_some.mp hlast
    obtain rfl := Option.some.inj hend
    obtain ⟨hIu, hseen⟩ := ih hu
    have hnext : I t'.state ∧ R u.state t'.state := by
      rcases step_state_of_pending hstep with hsame | ⟨i, p, statement, -, hp, hpending, happly⟩
      · rw [hsame]
        exact ⟨hIu, hrefl _⟩
      · obtain ⟨call, -, hwrites⟩ := writes_of_pending hs hu hp hpending
        exact ⟨hwrite _ call statement _ _ hseen hIu hwrites happly, hR _ _ _ happly⟩
    refine ⟨hnext.1, fun y hy => ?_⟩
    rcases seen_append_singleton hall hy with hold | rfl
    · exact ⟨(hseen y hold).1, htrans _ _ _ (hseen y hold).2 hnext.2⟩
    · exact ⟨hnext.1, hrefl _⟩

end Interleaving

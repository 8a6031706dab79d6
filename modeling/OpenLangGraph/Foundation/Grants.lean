import Mathlib.Data.List.Induction

/-!
# Grants and what ended them

A grant is issued to an owner. It ends when it is revoked, by its id, or when its owner is dropped,
which ends all grants of the owner. The log of these events says which grants are in force: those
that were issued and not ended since.

## Reserved resources

A grant may hold a resource that no other grant may have, such as a fingerprint. A revoked grant
still holds it: only dropping the owner sets it free. If every grant is issued while its resource is
free, two grants with one resource have a drop between them.

## Tables of grants

A table that stores grants gives them up when their owner is dropped and marks them when they are
revoked. `Mirrors` says that the rows are the grants that hold their resource, in order, and that
the open rows are those in force. Each kind of statement keeps it with the event that it is.

## Main definitions

* `Grants.Event`, `Grants.Event.ends` — what happens to grants
* `Grants.live`, `Grants.held` — the grants in force, and the grants that hold their resource
* `Grants.WellIssued` — each grant was issued while its resource was free
* `Grants.Mirrors` — the rows of a table are the grants of a log

## Main results

* `Grants.mem_live_iff`, `Grants.mem_held_iff` — issued, and not ended since
* `Grants.dropped_between` — a resource is granted twice only if the first owner was dropped
* `Grants.Mirrors.issue`, `Grants.Mirrors.revoke`, `Grants.Mirrors.touch`, `Grants.Mirrors.drop`
-/

namespace Grants

variable {G ι ο ρ : Type}

/-- What can happen to grants of type `G`, with ids in `ι` and owners in `ο`. -/
inductive Event (G ι ο : Type)
  | issued (grant : G)
  | revoked (id : ι)
  | dropped (owner : ο)
deriving DecidableEq

variable [DecidableEq ι] [DecidableEq ο] (id : G → ι) (owner : G → ο)

/-- The event ends the grant. -/
def Event.ends (grant : G) : Event G ι ο → Bool
  | .issued _ => false
  | .revoked i => id grant = i
  | .dropped o => owner grant = o

/-- The event frees what the grant holds. -/
def Event.frees (grant : G) : Event G ι ο → Bool
  | .dropped o => owner grant = o
  | _ => false

/-- What is left of `grants` after an event that ends those that `finished` says. -/
def after (finished : G → Event G ι ο → Bool) (grants : List G) (event : Event G ι ο) : List G :=
  match event with
  | .issued grant => grants ++ [grant]
  | event => grants.filter fun grant => !finished grant event

/-- The grants in force. -/
def live (log : List (Event G ι ο)) : List G := log.foldl (after (Event.ends id owner)) []

/-- The grants that hold their resource. -/
def held (log : List (Event G ι ο)) : List G := log.foldl (after (Event.frees owner)) []

variable {id owner} {log : List (Event G ι ο)} {grant : G}

/-! ### The log, event by event -/

theorem live_append (event : Event G ι ο) :
    live id owner (log ++ [event]) = after (Event.ends id owner) (live id owner log) event := by
  rw [live, List.foldl_append]
  rfl

omit [DecidableEq ι] in
theorem held_append (event : Event G ι ο) :
    held owner (log ++ [event]) = after (Event.frees owner) (held owner log) event := by
  rw [held, List.foldl_append]
  rfl

omit [DecidableEq ι] [DecidableEq ο] in
theorem mem_after {finished : G → Event G ι ο → Bool} {grants : List G} {event : Event G ι ο} :
    grant ∈ after finished grants event ↔ event = .issued grant ∨
      (grant ∈ grants ∧ (finished grant event = false ∨ ∃ other, event = .issued other)) := by
  cases event with
  | issued new =>
    rw [after, List.mem_append, List.mem_singleton, Event.issued.injEq]
    constructor
    · rintro (hold | rfl)
      · exact .inr ⟨hold, .inr ⟨new, rfl⟩⟩
      · exact .inl rfl
    · rintro (rfl | ⟨hold, -⟩)
      · exact .inr rfl
      · exact .inl hold
  | revoked i => simp [after]
  | dropped o => simp [after]

omit [DecidableEq ι] [DecidableEq ο] in
/-- Issued, and not over since. -/
theorem mem_foldl_iff {finished : G → Event G ι ο → Bool} :
    grant ∈ log.foldl (after finished) [] ↔
      ∃ before since, log = before ++ .issued grant :: since ∧
        ∀ event ∈ since, finished grant event = false ∨ ∃ other, event = .issued other := by
  induction log using List.reverseRecOn with
  | nil => simp
  | append_singleton log event ih =>
    rw [List.foldl_append, List.foldl_cons, List.foldl_nil, mem_after]
    constructor
    · rintro (rfl | ⟨hold, hkeeps⟩)
      · exact ⟨log, [], rfl, fun event hevent => absurd hevent List.not_mem_nil⟩
      · obtain ⟨before, since, rfl, hsince⟩ := ih.mp hold
        refine ⟨before, since ++ [event], by simp, fun e he => ?_⟩
        rcases List.mem_append.mp he with he | hlast
        · exact hsince e he
        · rw [List.mem_singleton.mp hlast]
          exact hkeeps
    · rintro ⟨before, since, heq, hsince⟩
      rcases List.eq_nil_or_concat since with rfl | ⟨init, last, rfl⟩
      · exact .inl (List.singleton_inj.mp (List.append_inj' heq rfl).2)
      · rw [List.concat_eq_append] at heq hsince
        have hsplit : log ++ [event] = (before ++ .issued grant :: init) ++ [last] := by
          simpa using heq
        obtain ⟨rfl, hlast⟩ := List.append_inj' hsplit rfl
        obtain rfl := List.singleton_inj.mp hlast
        have hinit : ∀ e ∈ init, finished grant e = false ∨ ∃ other, e = .issued other :=
          fun e he => hsince e (List.mem_append_left _ he)
        exact .inr ⟨ih.mpr ⟨before, init, rfl, hinit⟩,
          hsince event (List.mem_append_right _ (List.mem_singleton_self _))⟩

/-- **The grants in force** are those that were issued, and neither revoked nor dropped with their
owner since. -/
theorem mem_live_iff :
    grant ∈ live id owner log ↔
      ∃ before since, log = before ++ .issued grant :: since ∧
        .revoked (id grant) ∉ since ∧ .dropped (owner grant) ∉ since := by
  rw [live, mem_foldl_iff]
  refine exists_congr fun before => exists_congr fun since => and_congr_right fun _ => ?_
  constructor
  · intro h
    constructor
    · intro hmem
      rcases h _ hmem with hkeeps | ⟨other, hother⟩
      · simp [Event.ends] at hkeeps
      · cases hother
    · intro hmem
      rcases h _ hmem with hkeeps | ⟨other, hother⟩
      · simp [Event.ends] at hkeeps
      · cases hother
  · rintro ⟨hrevoked, hdropped⟩ event hevent
    cases event with
    | issued other => exact .inl rfl
    | revoked i => exact .inl (decide_eq_false fun hsame => hrevoked (hsame ▸ hevent))
    | dropped o => exact .inl (decide_eq_false fun hsame => hdropped (hsame ▸ hevent))

omit [DecidableEq ι] in
/-- The grants that hold their resource are those whose owner was not dropped since. -/
theorem mem_held_iff :
    grant ∈ held owner log ↔
      ∃ before since, log = before ++ .issued grant :: since ∧
        Event.dropped (owner grant) ∉ since := by
  rw [held, mem_foldl_iff]
  refine exists_congr fun before => exists_congr fun since => and_congr_right fun _ => ?_
  constructor
  · intro h hmem
    rcases h _ hmem with hkeeps | ⟨other, hother⟩
    · simp [Event.frees] at hkeeps
    · cases hother
  · intro h event hevent
    cases event with
    | issued other => exact .inr ⟨other, rfl⟩
    | revoked i => exact .inl rfl
    | dropped o => exact .inl (decide_eq_false fun hsame => h (hsame ▸ hevent))

/-! ### Resources -/

/-- Each grant was issued while its resource was free. -/
def WellIssued (owner : G → ο) (resource : G → ρ) (log : List (Event G ι ο)) : Prop :=
  ∀ before grant since, log = before ++ .issued grant :: since →
    ∀ other ∈ held owner before, resource other ≠ resource grant

omit [DecidableEq ι] in
theorem wellIssued_nil {resource : G → ρ} :
    WellIssued owner resource ([] : List (Event G ι ο)) := by
  intro before grant since h
  simp at h

omit [DecidableEq ι] in
/-- One event more. -/
theorem WellIssued.append {resource : G → ρ} {event : Event G ι ο}
    (h : WellIssued owner resource log)
    (hevent : ∀ grant, event = .issued grant →
      ∀ other ∈ held owner log, resource other ≠ resource grant) :
    WellIssued owner resource (log ++ [event]) := by
  intro before grant since heq
  rcases List.eq_nil_or_concat since with rfl | ⟨init, last, rfl⟩
  · obtain ⟨rfl, hlast⟩ := List.append_inj' heq rfl
    exact hevent grant (List.singleton_inj.mp hlast)
  · have hsplit : log ++ [event] = (before ++ .issued grant :: init) ++ [last] := by
      simpa [List.concat_eq_append] using heq
    exact h before grant init (List.append_inj' hsplit rfl).1

omit [DecidableEq ι] in
/-- **A resource is granted twice** only if the owner of the first grant was dropped in between. -/
theorem dropped_between {resource : G → ρ} {before between since : List (Event G ι ο)}
    {first second : G} (h : WellIssued owner resource log)
    (hlog : log = before ++ .issued first :: (between ++ .issued second :: since))
    (hsame : resource first = resource second) : Event.dropped (owner first) ∈ between := by
  by_contra hnot
  have hheld : first ∈ held owner (before ++ .issued first :: between) :=
    mem_held_iff.mpr ⟨before, between, rfl, hnot⟩
  exact h (before ++ .issued first :: between) second since (by simp [hlog]) first hheld hsame

/-! ### Tables of grants -/

theorem live_subset_held (h : grant ∈ live id owner log) : grant ∈ held owner log := by
  obtain ⟨before, since, hlog, -, hdropped⟩ := mem_live_iff.mp h
  exact mem_held_iff.mpr ⟨before, since, hlog, hdropped⟩

section Mirrors

variable {R V : Type}

/-- The rows are the grants that hold their resource, and the open ones those in force. -/
structure Mirrors (id : G → ι) (owner : G → ο) (isOpen : R → Bool) (view : R → V)
    (grantView : G → V) (rows : List R) (log : List (Event G ι ο)) : Prop where
  live : (rows.filter isOpen).map view = (Grants.live id owner log).map grantView
  held : rows.map view = (Grants.held owner log).map grantView

variable {isOpen : R → Bool} {view : R → V} {grantView : G → V} {rows : List R}

theorem mirrors_nil : Mirrors id owner isOpen view grantView ([] : List R) [] := ⟨rfl, rfl⟩

namespace Mirrors

/-- `INSERT` of an open row is the issue of its grant. -/
theorem issue {row : R} (h : Mirrors id owner isOpen view grantView rows log)
    (hopen : isOpen row = true) (hview : view row = grantView grant) :
    Mirrors id owner isOpen view grantView (rows ++ [row]) (log ++ [.issued grant]) where
  live := by
    rw [List.filter_append, List.map_append, h.live, live_append, after, List.map_append]
    simp [hopen, hview]
  held := by
    rw [List.map_append, h.held, held_append, after, List.map_append]
    simp [hview]

/-- `UPDATE` of what is not in the view, and leaves rows open. -/
theorem touch {f : R → R} (h : Mirrors id owner isOpen view grantView rows log)
    (hview : ∀ row, view (f row) = view row) (hopen : ∀ row, isOpen (f row) = isOpen row) :
    Mirrors id owner isOpen view grantView (rows.map f) log where
  live := by
    rw [List.filter_map, List.map_map, ← h.live]
    rw [show isOpen ∘ f = isOpen from funext hopen, show view ∘ f = view from funext hview]
  held := by
    rw [List.map_map, ← h.held, show view ∘ f = view from funext hview]

/-- `UPDATE` that closes the rows that it is about is their revocation. -/
theorem revoke {p : R → Bool} {f : R → R} {q : V → Bool} {i : ι}
    (h : Mirrors id owner isOpen view grantView rows log)
    (hview : ∀ row, view (f row) = view row) (hclosed : ∀ row, isOpen (f row) = false)
    (hp : ∀ row, p row = q (view row))
    (hq : ∀ grant ∈ Grants.live id owner log, q (grantView grant) = decide (id grant = i)) :
    Mirrors id owner isOpen view grantView (rows.map fun row => if p row then f row else row)
      (log ++ [.revoked i]) where
  live := by
    have hrows : ((rows.map fun row => if p row then f row else row).filter isOpen).map view =
        ((rows.filter isOpen).map view).filter fun v => !q v := by
      obtain rfl : p = fun row => q (view row) := funext hp
      clear h hq hp
      induction rows with
      | nil => rfl
      | cons row rows ih =>
        cases hrow : q (view row) <;> cases hopen : isOpen row <;>
          simp [hrow, hopen, hclosed, ih]
    rw [hrows, h.live, live_append, List.filter_map]
    refine congrArg (List.map grantView) (List.filter_congr fun grant hgrant => ?_)
    rw [Function.comp_apply, hq grant hgrant]
    rfl
  held := by
    have hsame : ∀ row, view (if p row then f row else row) = view row := by
      intro row
      split
      · exact hview row
      · rfl
    rw [List.map_map, show (view ∘ fun row => if p row then f row else row) = view from
      funext hsame, h.held, held_append]
    exact congrArg (List.map grantView) (List.filter_eq_self.mpr fun grant _ => rfl).symm

/-- `DELETE` of the rows of an owner is the drop of the owner. -/
theorem drop {p : R → Bool} {q : V → Bool} {o : ο}
    (h : Mirrors id owner isOpen view grantView rows log)
    (hp : ∀ row, p row = q (view row))
    (hq : ∀ grant ∈ Grants.held owner log, q (grantView grant) = decide (owner grant = o)) :
    Mirrors id owner isOpen view grantView (rows.filter fun row => !p row)
      (log ++ [.dropped o]) where
  live := by
    have hrows : ((rows.filter fun row => !p row).filter isOpen).map view =
        ((rows.filter isOpen).map view).filter fun v => !q v := by
      rw [List.filter_map, List.filter_filter, List.filter_filter]
      refine congrArg (List.map view) (List.filter_congr fun row _ => ?_)
      rw [Function.comp_apply, hp, Bool.and_comm]
    rw [hrows, h.live, live_append, List.filter_map]
    refine congrArg (List.map grantView) (List.filter_congr fun grant hgrant => ?_)
    rw [Function.comp_apply, hq grant (live_subset_held hgrant)]
    rfl
  held := by
    have hrows :
        (rows.filter fun row => !p row).map view = (rows.map view).filter fun v => !q v := by
      rw [List.filter_map]
      refine congrArg (List.map view) (List.filter_congr fun row _ => ?_)
      rw [Function.comp_apply, hp]
    rw [hrows, h.held, held_append, List.filter_map]
    refine congrArg (List.map grantView) (List.filter_congr fun grant hgrant => ?_)
    rw [Function.comp_apply, hq grant hgrant]
    rfl

end Mirrors

end Mirrors

end Grants

import OpenLangGraph.Foundation.Transition

/-!
# Bounded queues with waiting producers

A queue with a capacity and a flag that closes it. A producer that finds the queue full waits for
room, unless the oldest element that may be dropped makes room for it. An element can close the
queue. The flag is tested when a producer comes, and not again when it gets its room.

## Main definitions

* `Thinned` — a list without some elements of a kind
* `Config`, `State`, `Label`, `step`
* `EndsFinally` — nothing is accepted after an element that closes the queue

## Main results

* `sound_of_exec` — order, loss and length, in every run
* `room_eq_none_iff` — when a queue that nobody reads is full
* `ends_iff` — when closing the queue is final
-/

namespace BoundedQueue

open Transition

variable {α : Type*}

/-! ### Lists without some elements -/

/-- The first list is the second without some elements that satisfy `p`. -/
inductive Thinned (p : α → Prop) : List α → List α → Prop
  | nil : Thinned p [] []
  | keep (x : α) {l' l : List α} (h : Thinned p l' l) : Thinned p (x :: l') (x :: l)
  | drop {x : α} {l' l : List α} (hx : p x) (h : Thinned p l' l) : Thinned p l' (x :: l)

namespace Thinned

variable {p : α → Prop} {l l' m m' : List α}

theorem refl (p : α → Prop) : ∀ l : List α, Thinned p l l
  | [] => .nil
  | x :: l => .keep x (refl p l)

theorem sublist (h : Thinned p l' l) : l'.Sublist l := by
  induction h with
  | nil => exact List.Sublist.refl _
  | keep x _ ih => exact ih.cons_cons x
  | drop _ _ ih => exact ih.cons _

theorem append (h : Thinned p l' l) (hm : Thinned p m' m) : Thinned p (l' ++ m') (l ++ m) := by
  induction h with
  | nil => exact hm
  | keep x _ ih => exact .keep x ih
  | drop hx _ ih => exact .drop hx ih

theorem trans {k : List α} (hkl : Thinned p k l') (hl : Thinned p l' l) : Thinned p k l := by
  induction hl generalizing k with
  | nil => exact hkl
  | keep x h ih =>
    cases hkl with
    | keep _ hkl => exact .keep x (ih hkl)
    | drop hx hkl => exact .drop hx (ih hkl)
  | drop hx h ih => exact .drop hx (ih hkl)

/-- One element is missing. -/
theorem of_middle (p : α → Prop) {x : α} (hx : p x) (pre post : List α) :
    Thinned p (pre ++ post) (pre ++ x :: post) :=
  (refl p pre).append (.drop hx (refl p post))

/-- What is of no such kind is all there. -/
theorem filter_eq {q : α → Bool} (h : Thinned p l' l) (hq : ∀ x, p x → q x = false) :
    l'.filter q = l.filter q := by
  induction h with
  | nil => rfl
  | keep x _ ih => rw [List.filter_cons, List.filter_cons, ih]
  | drop hx _ ih => rw [List.filter_cons, hq _ hx, ih, if_neg (by simp)]

end Thinned

/-! ### The queue -/

structure Config (α : Type*) where
  capacity : ℕ
  capacity_pos : 0 < capacity
  /-- A full queue drops its oldest element that may be dropped. -/
  dropsOldest : Bool
  mayDrop : α → Bool
  /-- The element closes the queue. -/
  closes : α → Bool

/-- A queue, with what has passed through it. -/
structure State (α : Type*) where
  items : List α
  closed : Bool
  /-- The elements of the producers that wait for room, in the order in which they came. -/
  waiting : List α
  accepted : List α
  delivered : List α

/-- A new queue. -/
def init : State α := ⟨[], false, [], [], []⟩

inductive Label (α : Type*)
  /-- a producer comes -/
  | put (x : α)
  /-- a producer that waits gets its room -/
  | resume (i : ℕ)
  /-- a producer that waits gives up -/
  | abandon (i : ℕ)
  | take
  | close

/-- The elements without the oldest that may be dropped, if there is one. -/
def dropOldest (mayDrop : α → Bool) : List α → Option (List α)
  | [] => none
  | x :: items => if mayDrop x then some items else (dropOldest mayDrop items).map (x :: ·)

/-- The elements that a producer which has just come can add its own to. -/
def room (cfg : Config α) (items : List α) : Option (List α) :=
  if items.length < cfg.capacity then some items
  else if cfg.dropsOldest then dropOldest cfg.mayDrop items
  else none

def accept (cfg : Config α) (s : State α) (items : List α) (x : α) : State α :=
  { s with
    items := items ++ [x]
    closed := s.closed || cfg.closes x
    accepted := s.accepted ++ [x] }

def step (cfg : Config α) (s : State α) : Label α → Option (State α)
  | .put x =>
    if s.closed then some s
    else
      match room cfg s.items with
      | some items => some (accept cfg s items x)
      | none => some { s with waiting := s.waiting ++ [x] }
  | .resume i =>
    if s.items.length < cfg.capacity then
      s.waiting[i]?.map fun x =>
        accept cfg { s with waiting := s.waiting.eraseIdx i } s.items x
    else none
  | .abandon i => s.waiting[i]?.map fun _ => { s with waiting := s.waiting.eraseIdx i }
  | .take =>
    match s.items with
    | [] => none
    | x :: items => some { s with items, delivered := s.delivered ++ [x] }
  | .close => some { s with closed := true }

/-! ### What a step can do -/

variable {cfg : Config α} {s s' : State α} {l : Label α}

theorem dropOldest_eq_some {mayDrop : α → Bool} {items items' : List α}
    (h : dropOldest mayDrop items = some items') :
    ∃ pre x post, items = pre ++ x :: post ∧ items' = pre ++ post ∧ mayDrop x = true := by
  induction items generalizing items' with
  | nil => cases h
  | cons y items ih =>
    rw [dropOldest] at h
    split at h
    · rename_i hdrop
      obtain rfl := Option.some.inj h
      exact ⟨[], y, items, rfl, rfl, hdrop⟩
    · obtain ⟨rest, hrest, rfl⟩ := Option.map_eq_some_iff.mp h
      obtain ⟨pre, x, post, rfl, rfl, hdrop⟩ := ih hrest
      exact ⟨y :: pre, x, post, rfl, rfl, hdrop⟩

/-- Room is room, and what was dropped for it may be dropped. -/
theorem room_eq_some {items items' : List α} (h : room cfg items = some items')
    (hlength : items.length ≤ cfg.capacity) :
    items'.length < cfg.capacity ∧ Thinned (fun x => cfg.mayDrop x = true) items' items ∧
      (cfg.dropsOldest = false → items' = items) := by
  rw [room] at h
  split at h
  · rename_i hroom
    obtain rfl := Option.some.inj h
    exact ⟨hroom, .refl _ _, fun _ => rfl⟩
  · rename_i hfull
    split at h
    · rename_i hpolicy
      obtain ⟨pre, x, post, rfl, rfl, hdrop⟩ := dropOldest_eq_some h
      refine ⟨?_, .of_middle (cfg.mayDrop · = true) hdrop pre post,
        fun hno => absurd hpolicy (by simp [hno])⟩
      rw [List.length_append, List.length_cons] at hlength
      rw [List.length_append]
      omega
    · cases h

/-- What a step can do, one constructor for each thing. -/
inductive Moves (cfg : Config α) (s : State α) : Label α → State α → Prop
  | reject (x : α) (hclosed : s.closed = true) : Moves cfg s (.put x) s
  | put {x : α} {items : List α} (hopen : s.closed = false)
      (hroom : room cfg s.items = some items) : Moves cfg s (.put x) (accept cfg s items x)
  | wait {x : α} (hopen : s.closed = false) (hroom : room cfg s.items = none) :
      Moves cfg s (.put x) { s with waiting := s.waiting ++ [x] }
  | resume {i : ℕ} {x : α} (hx : s.waiting[i]? = some x) (hroom : s.items.length < cfg.capacity) :
      Moves cfg s (.resume i)
        (accept cfg { s with waiting := s.waiting.eraseIdx i } s.items x)
  | abandon {i : ℕ} {x : α} (hx : s.waiting[i]? = some x) :
      Moves cfg s (.abandon i) { s with waiting := s.waiting.eraseIdx i }
  | take {x : α} {items : List α} (hitems : s.items = x :: items) :
      Moves cfg s .take { s with items, delivered := s.delivered ++ [x] }
  | close : Moves cfg s .close { s with closed := true }

/-- **What a step can do.** -/
theorem step_cases (h : step cfg s l = some s') : Moves cfg s l s' := by
  cases l with
  | put x =>
    rw [step] at h
    split at h
    · rename_i hclosed
      obtain rfl := Option.some.inj h
      exact .reject x hclosed
    · rename_i hopen
      have hopen : s.closed = false := by simpa using hopen
      split at h
      · rename_i items hroom
        obtain rfl := Option.some.inj h
        exact .put hopen hroom
      · rename_i hroom
        obtain rfl := Option.some.inj h
        exact .wait hopen hroom
  | resume i =>
    rw [step] at h
    split at h
    · rename_i hroom
      obtain ⟨x, hx, rfl⟩ := Option.map_eq_some_iff.mp h
      exact .resume hx hroom
    · cases h
  | abandon i =>
    obtain ⟨x, hx, rfl⟩ := Option.map_eq_some_iff.mp h
    exact .abandon hx
  | take =>
    rw [step] at h
    split at h
    · cases h
    · rename_i x items hitems
      obtain rfl := Option.some.inj h
      exact .take hitems
  | close =>
    obtain rfl := Option.some.inj h
    exact .close

/-- What waits or was accepted came with a producer. -/
theorem mem_of_step (h : step cfg s l = some s') {x : α} (hx : x ∈ s'.waiting ++ s'.accepted) :
    x ∈ s.waiting ++ s.accepted ∨ l = .put x := by
  cases step_cases h with
  | reject | take | close => exact .inl hx
  | @put y items =>
    have hx : x ∈ s.waiting ++ (s.accepted ++ [y]) := hx
    rw [← List.append_assoc] at hx
    exact (List.mem_append.mp hx).imp_right fun hx => by rw [List.mem_singleton.mp hx]
  | @wait y =>
    have hx : x ∈ s.waiting ++ [y] ++ s.accepted := hx
    rcases List.mem_append.mp hx with hx | hx
    · rcases List.mem_append.mp hx with hx | hx
      · exact .inl (List.mem_append_left _ hx)
      · exact .inr (by rw [List.mem_singleton.mp hx])
    · exact .inl (List.mem_append_right _ hx)
  | @resume i y hy =>
    have hx : x ∈ s.waiting.eraseIdx i ++ (s.accepted ++ [y]) := hx
    refine .inl ?_
    rcases List.mem_append.mp hx with hx | hx
    · exact List.mem_append_left _ (List.mem_of_mem_eraseIdx hx)
    · rcases List.mem_append.mp hx with hx | hx
      · exact List.mem_append_right _ hx
      · exact List.mem_append_left _ (List.mem_singleton.mp hx ▸ List.mem_of_getElem? hy)
  | abandon =>
    refine .inl ?_
    rcases List.mem_append.mp hx with hx | hx
    · exact List.mem_append_left _ (List.mem_of_mem_eraseIdx hx)
    · exact List.mem_append_right _ hx

/-! ### Order, loss and length -/

/-- What has been delivered and what is in the queue is what was accepted, without some elements
that were dropped; and the queue is not too long. -/
structure Sound (cfg : Config α) (s : State α) : Prop where
  length : s.items.length ≤ cfg.capacity
  thinned : Thinned (fun x => cfg.mayDrop x = true) (s.delivered ++ s.items) s.accepted
  all : cfg.dropsOldest = false → s.delivered ++ s.items = s.accepted

theorem sound_init (cfg : Config α) : Sound cfg init :=
  ⟨Nat.zero_le _, .nil, fun _ => rfl⟩

theorem sound_accept {items : List α} (x : α) (hs : Sound cfg s)
    (hlength : items.length < cfg.capacity)
    (hthinned : Thinned (fun x => cfg.mayDrop x = true) items s.items)
    (hall : cfg.dropsOldest = false → items = s.items) : Sound cfg (accept cfg s items x) where
  length := by
    show (items ++ [x]).length ≤ cfg.capacity
    rw [List.length_append, List.length_singleton]
    omega
  thinned := by
    show Thinned _ (s.delivered ++ (items ++ [x])) (s.accepted ++ [x])
    rw [← List.append_assoc]
    exact (((Thinned.refl _ _).append hthinned).trans hs.thinned).append (.refl _ _)
  all := fun hpolicy => by
    show s.delivered ++ (items ++ [x]) = s.accepted ++ [x]
    rw [hall hpolicy, ← List.append_assoc, hs.all hpolicy]

theorem sound_step (hs : Sound cfg s) (h : step cfg s l = some s') : Sound cfg s' := by
  cases step_cases h with
  | reject => exact hs
  | put hopen hroom =>
    obtain ⟨hlength, hthinned, hall⟩ := room_eq_some hroom hs.length
    exact sound_accept _ hs hlength hthinned hall
  | wait | abandon | close => exact ⟨hs.length, hs.thinned, hs.all⟩
  | resume hx hroom =>
    exact sound_accept _ ⟨hs.length, hs.thinned, hs.all⟩ hroom (.refl _ _) fun _ => rfl
  | @take x items hitems =>
    obtain ⟨hlength, hthinned, hall⟩ := hs
    have happend : s.delivered ++ [x] ++ items = s.delivered ++ s.items := by
      rw [hitems, List.append_assoc, List.singleton_append]
    refine ⟨?_, ?_, ?_⟩
    · rw [hitems, List.length_cons] at hlength
      exact Nat.le_of_succ_le hlength
    · show Thinned _ (s.delivered ++ [x] ++ items) s.accepted
      rwa [happend]
    · show cfg.dropsOldest = false → s.delivered ++ [x] ++ items = s.accepted
      rwa [happend]

/-- Order, loss and length, in every run. -/
theorem sound_of_exec {labels : List (Label α)} (h : exec (step cfg) init labels = some s) :
    Sound cfg s :=
  exec_invariant (P := fun _ _ => True) (fun _ _ _ hs _ hstep => sound_step hs hstep)
    (sound_init cfg) (along_true _ _) h

/-! ### A queue that nobody reads -/

/-- The element stays in a queue that nobody reads. -/
def stays (cfg : Config α) (x : α) : Bool := !(cfg.dropsOldest && cfg.mayDrop x)

theorem delivered_of_step (hl : l ≠ .take) (h : step cfg s l = some s') :
    s'.delivered = s.delivered := by
  cases step_cases h with
  | take => exact absurd rfl hl
  | reject | put | wait | resume | abandon | close => rfl

theorem dropOldest_eq_none_iff {mayDrop : α → Bool} {items : List α} :
    dropOldest mayDrop items = none ↔ ∀ x ∈ items, mayDrop x = false := by
  induction items with
  | nil => exact ⟨fun _ => nofun, fun _ => rfl⟩
  | cons x items ih =>
    rw [dropOldest, List.forall_mem_cons, ← ih]
    cases mayDrop x with
    | false => simp
    | true => simp

/-- What stays of the elements that were accepted is in the queue. -/
theorem countP_stays (hs : Sound cfg s) (hunread : s.delivered = []) :
    s.items.countP (stays cfg) = s.accepted.countP (stays cfg) := by
  have hthinned := hs.thinned
  rw [hunread, List.nil_append] at hthinned
  cases hpolicy : cfg.dropsOldest with
  | false =>
    have hall := hs.all hpolicy
    rw [hunread, List.nil_append] at hall
    rw [hall]
  | true =>
    rw [List.countP_eq_length_filter, List.countP_eq_length_filter]
    refine congrArg List.length (hthinned.filter_eq fun x hx => ?_)
    rw [stays, hpolicy, hx]
    rfl

/-- **A queue that nobody reads is full** once as many elements as it can hold were accepted that
stay in it. -/
theorem room_eq_none_iff (hs : Sound cfg s) (hunread : s.delivered = []) :
    room cfg s.items = none ↔ cfg.capacity ≤ s.accepted.countP (stays cfg) := by
  rw [← countP_stays hs hunread, room]
  have hlength := hs.length
  have hcount : s.items.countP (stays cfg) ≤ s.items.length := List.countP_le_length
  split
  · exact iff_of_false nofun (by omega)
  · rename_i hfull
    have hall : (∀ x ∈ s.items, stays cfg x = true) ↔
        cfg.capacity ≤ s.items.countP (stays cfg) := by
      rw [← List.countP_eq_length]
      omega
    rw [← hall]
    cases hpolicy : cfg.dropsOldest with
    | false =>
      refine iff_of_true rfl fun x _ => ?_
      rw [stays, hpolicy]
      rfl
    | true =>
      rw [if_pos rfl, dropOldest_eq_none_iff]
      refine forall₂_congr fun x _ => ?_
      rw [stays, hpolicy, Bool.true_and, Bool.not_eq_true']

/-! ### Closing -/

/-- The last element that was accepted is the only one that can have closed the queue. -/
def ClosedLast (cfg : Config α) (s : State α) : Prop :=
  ∀ before x after, s.accepted = before ++ x :: after → cfg.closes x = true → after = []

theorem ClosedLast.countP_le_one (hs : ClosedLast cfg s) : s.accepted.countP cfg.closes ≤ 1 := by
  by_cases hexists : ∃ x ∈ s.accepted, cfg.closes x = true
  · obtain ⟨x, hx, hcloses⟩ := hexists
    obtain ⟨before, after, haccepted⟩ := List.append_of_mem hx
    obtain rfl := hs before x after haccepted hcloses
    have hbefore : before.countP cfg.closes = 0 := by
      rw [List.countP_eq_zero]
      intro y hy hy'
      obtain ⟨first, rest, rfl⟩ := List.append_of_mem hy
      have hrest := hs first y (rest ++ [x]) (by rw [haccepted, List.append_assoc]; rfl) hy'
      exact List.append_ne_nil_of_right_ne_nil rest (List.cons_ne_nil x []) hrest
    rw [haccepted, List.countP_append, hbefore, List.countP_singleton]
    split <;> omega
  · have hnone : s.accepted.countP cfg.closes = 0 :=
      List.countP_eq_zero.mpr fun x hx hcloses => hexists ⟨x, hx, hcloses⟩
    omega

/-- Closing the queue is final in a run: nothing is accepted after an element that closes it, and
once it is closed its elements only become fewer. -/
structure EndsFinally (cfg : Config α) (s : State α) (labels : List (Label α)) : Prop where
  last : ∀ pre t, pre <+: labels → exec (step cfg) s pre = some t → ClosedLast cfg t
  shrinks : Along (step cfg)
    (fun t l => ∀ t', step cfg t l = some t' → t.closed = true → t'.items <:+ t.items) s labels

/-- A producer that waits gets its room only while the queue is open. -/
def resumesOpen (s : State α) : Label α → Bool
  | .resume _ => !s.closed
  | _ => true

/-- The invariant behind `ClosedLast`. -/
def ClosedByLast (cfg : Config α) (s : State α) : Prop :=
  ∀ before x after, s.accepted = before ++ x :: after → cfg.closes x = true →
    after = [] ∧ s.closed = true

theorem closedByLast_accept {items : List α} (x : α) (hs : ClosedByLast cfg s)
    (hopen : s.closed = false) : ClosedByLast cfg (accept cfg s items x) := by
  intro before y after haccepted hcloses
  have haccepted : s.accepted ++ [x] = before ++ y :: after := haccepted
  rcases List.eq_nil_or_concat after with rfl | ⟨after, z, rfl⟩
  · obtain ⟨-, rfl⟩ := List.append_inj' haccepted rfl |>.imp_right List.singleton_inj.mp
    exact ⟨rfl, Bool.or_eq_true_iff.mpr (.inr hcloses)⟩
  · have hbefore : s.accepted ++ [x] = (before ++ y :: after) ++ [z] := by
      rw [haccepted, List.concat_eq_append, List.append_assoc, List.cons_append]
    obtain ⟨hbefore, -⟩ := List.append_inj' hbefore rfl
    exact absurd (hs before y after hbefore hcloses).2 (by simp [hopen])

theorem closedByLast_step (hs : ClosedByLast cfg s) (hopen : resumesOpen s l = true)
    (h : step cfg s l = some s') : ClosedByLast cfg s' := by
  cases step_cases h with
  | reject | wait | abandon | take => exact hs
  | put hput => exact closedByLast_accept _ hs hput
  | resume => exact closedByLast_accept _ hs (by simpa [resumesOpen] using hopen)
  | close => exact fun before x after haccepted hcloses =>
      ⟨(hs before x after haccepted hcloses).1, rfl⟩

/-- Once the queue is closed, only a producer that waits can add to it. -/
theorem shrinks_iff (h : step cfg s l = some s') :
    (s.closed = true → s'.items <:+ s.items) ↔ resumesOpen s l = true := by
  cases step_cases h with
  | reject | wait | abandon | close =>
    exact ⟨fun _ => rfl, fun _ _ => List.suffix_refl _⟩
  | put hopen => exact ⟨fun _ => rfl, fun _ hclosed => absurd hclosed (by simp [hopen])⟩
  | take hitems =>
    refine ⟨fun _ => rfl, fun _ _ => ?_⟩
    rw [hitems]
    exact List.suffix_cons _ _
  | @resume i x hx hroom =>
    cases hclosed : s.closed with
    | false =>
      refine ⟨fun _ => ?_, fun _ h => nomatch h⟩
      simp [resumesOpen, hclosed]
    | true =>
      constructor
      · intro hsuffix
        have hlength : (s.items ++ [x]).length ≤ s.items.length := (hsuffix rfl).length_le
        rw [List.length_append, List.length_singleton] at hlength
        omega
      · intro hopen
        exact absurd hopen (by simp [resumesOpen, hclosed])

/-- **When closing is final**: exactly if no producer that waits gets its room after the queue was
closed. -/
theorem ends_iff {labels : List (Label α)} (h : exec (step cfg) init labels = some s) :
    EndsFinally cfg init labels ↔
      Along (step cfg) (fun t l => resumesOpen t l = true) init labels := by
  have henabled := along_isSome h
  constructor
  · rintro ⟨-, hshrinks⟩
    refine (hshrinks.and henabled).mono ?_
    rintro t l ⟨hshrinks, hsome⟩
    obtain ⟨t', ht'⟩ := Option.isSome_iff_exists.mp hsome
    exact (shrinks_iff ht').mp (hshrinks t' ht')
  · intro hopen
    have hinit : ClosedByLast cfg init := by
      intro before x after haccepted
      simp [init] at haccepted
    refine ⟨fun pre t hpre ht before x after haccepted hcloses => ?_, ?_⟩
    · obtain ⟨post, rfl⟩ := hpre
      have hpre := (along_append.mp hopen).1
      exact (exec_invariant (fun _ _ _ hs hopen h => closedByLast_step hs hopen h) hinit hpre ht
        before x after haccepted hcloses).1
    · exact hopen.mono fun t l hopen t' ht' => (shrinks_iff ht').mpr hopen

end BoundedQueue

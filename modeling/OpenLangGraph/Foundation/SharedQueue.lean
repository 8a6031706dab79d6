import Mathlib.Data.List.Nodup
import Mathlib.Data.List.Perm.Basic
import OpenLangGraph.Foundation.BoundedQueue
import OpenLangGraph.Foundation.Processes

/-!
# A bounded queue with many readers

One queue and any number of readers that come and go. An element that a reader takes is gone for
the others. A reader passes on what it takes or skips it, and may end over it.

## What a reader is owed

A reader is owed the elements that are accepted after it has come. It is served if what it is owed
has come to it or is still in the queue, in order; once it has ended, what is in the queue is of
no use to it. Nothing is asked for a reader that has left of its own accord.

## Serial numbers

An element is kept with the number of the put that brought it, so that equal elements of two puts
are still two. No step depends on the number.

## Main definitions

* `Behaviour`, `Reader`, `State`, `Label`, `step`
* `Reader.Served`, `fair`

## Main results

* `step_cases` — what a step can do
* `served_iff` — every reader is served throughout a run exactly if each of its steps is fair
-/

namespace SharedQueue

open Transition BoundedQueue

variable {α ρ ω : Type*}

/-! ### The system -/

/-- What the readers do, from the state that each of them is in. A state afterwards that is `none`
means that the reader has ended. -/
structure Behaviour (α ρ ω : Type*) where
  /-- It takes an element: whether it passes it on, and the state afterwards. `none` if it does not
  read in this state. -/
  read : ρ → α → Option (Bool × Option ρ)
  /-- A step without the queue, of which it sees whether it is closed and whether it is empty. -/
  turn : ρ → (closed empty : Bool) → ω → Option (Option ρ)

inductive Phase (ρ : Type*)
  | reading (r : ρ)
  | ended
  | left

/-- What comes after a step of a reader. -/
def Phase.after : Option ρ → Phase ρ
  | some r => .reading r
  | none => .ended

def Phase.isReading : Phase ρ → Bool
  | .reading _ => true
  | .ended | .left => false

def Phase.isEnded : Phase ρ → Bool
  | .ended => true
  | .reading _ | .left => false

def Phase.hasLeft : Phase ρ → Bool
  | .left => true
  | .reading _ | .ended => false

structure Reader (α ρ : Type*) where
  phase : Phase ρ
  /-- The number of elements that were accepted before it came. -/
  since : ℕ
  /-- The elements it has passed on. -/
  received : List (ℕ × α)

structure State (α ρ : Type*) where
  queue : BoundedQueue.State (ℕ × α)
  puts : ℕ
  readers : List (Reader α ρ)

def init : State α ρ := ⟨BoundedQueue.init, 0, []⟩

inductive Label (α ρ ω : Type*)
  | put (x : α)
  | resume (i : ℕ)
  | abandon (i : ℕ)
  | close
  | attach (r : ρ)
  | take (i : ℕ)
  | turn (i : ℕ) (o : ω)
  | leave (i : ℕ)

/-- The queue of numbered elements. -/
def numbered (cfg : Config α) : Config (ℕ × α) where
  capacity := cfg.capacity
  capacity_pos := cfg.capacity_pos
  dropsOldest := cfg.dropsOldest
  mayDrop x := cfg.mayDrop x.2
  closes x := cfg.closes x.2

/-- A step of the queue. -/
def State.move (cfg : Config α) (s : State α ρ) (l : BoundedQueue.Label (ℕ × α)) :
    Option (State α ρ) :=
  (BoundedQueue.step (numbered cfg) s.queue l).map fun queue => { s with queue }

/-- The reader takes the oldest element. -/
def Reader.take (reader : Reader α ρ) (x : ℕ × α) (keeps : Bool) (next : Option ρ) : Reader α ρ :=
  { reader with
    phase := .after next
    received := if keeps then reader.received ++ [x] else reader.received }

def State.takes (b : Behaviour α ρ ω) (s : State α ρ) (i : ℕ) (reader : Reader α ρ) :
    Option (State α ρ) :=
  match reader.phase, s.queue.items with
  | .reading r, x :: items =>
    (b.read r x.2).map fun result =>
      { s with
        queue := { s.queue with items, delivered := s.queue.delivered ++ [x] }
        readers := s.readers.set i (reader.take x result.1 result.2) }
  | _, _ => none

def State.turns (b : Behaviour α ρ ω) (s : State α ρ) (i : ℕ) (reader : Reader α ρ) (o : ω) :
    Option (State α ρ) :=
  match reader.phase with
  | .reading r =>
    (b.turn r s.queue.closed s.queue.items.isEmpty o).map fun next =>
      { s with readers := s.readers.set i { reader with phase := .after next } }
  | .ended | .left => none

def step (cfg : Config α) (b : Behaviour α ρ ω) (s : State α ρ) :
    Label α ρ ω → Option (State α ρ)
  | .put x => { s with puts := s.puts + 1 }.move cfg (.put (s.puts, x))
  | .resume i => s.move cfg (.resume i)
  | .abandon i => s.move cfg (.abandon i)
  | .close => s.move cfg .close
  | .attach r => some { s with
      readers := s.readers ++ [⟨.reading r, s.queue.accepted.length, []⟩] }
  | .take i => s.readers[i]?.bind (s.takes b i)
  | .turn i o => s.readers[i]?.bind (s.turns b i · o)
  | .leave i => s.readers[i]?.map fun reader =>
      { s with readers := s.readers.set i { reader with phase := .left } }

/-! ### What a step can do -/

variable {cfg : Config α} {b : Behaviour α ρ ω} {s s' : State α ρ} {l : Label α ρ ω}

/-- What a step can do, one constructor for each thing. -/
inductive Moves (cfg : Config α) (b : Behaviour α ρ ω) (s : State α ρ) :
    Label α ρ ω → State α ρ → Prop
  | put {x : α} {queue : BoundedQueue.State (ℕ × α)}
      (hqueue : BoundedQueue.step (numbered cfg) s.queue (.put (s.puts, x)) = some queue) :
      Moves cfg b s (.put x) { s with queue, puts := s.puts + 1 }
  | resume {i : ℕ} {queue : BoundedQueue.State (ℕ × α)}
      (hqueue : BoundedQueue.step (numbered cfg) s.queue (.resume i) = some queue) :
      Moves cfg b s (.resume i) { s with queue }
  | abandon {i : ℕ} {queue : BoundedQueue.State (ℕ × α)}
      (hqueue : BoundedQueue.step (numbered cfg) s.queue (.abandon i) = some queue) :
      Moves cfg b s (.abandon i) { s with queue }
  | close : Moves cfg b s .close { s with queue := { s.queue with closed := true } }
  | attach (r : ρ) : Moves cfg b s (.attach r) { s with
      readers := s.readers ++ [⟨.reading r, s.queue.accepted.length, []⟩] }
  | take {i : ℕ} {reader : Reader α ρ} {r : ρ} {x : ℕ × α} {items : List (ℕ × α)} {keeps : Bool}
      {next : Option ρ} (hreader : s.readers[i]? = some reader) (hphase : reader.phase = .reading r)
      (hitems : s.queue.items = x :: items) (hread : b.read r x.2 = some (keeps, next)) :
      Moves cfg b s (.take i)
        { s with
          queue := { s.queue with items, delivered := s.queue.delivered ++ [x] }
          readers := s.readers.set i (reader.take x keeps next) }
  | turn {i : ℕ} {o : ω} {reader : Reader α ρ} {r : ρ} {next : Option ρ}
      (hreader : s.readers[i]? = some reader) (hphase : reader.phase = .reading r)
      (hturn : b.turn r s.queue.closed s.queue.items.isEmpty o = some next) :
      Moves cfg b s (.turn i o)
        { s with readers := s.readers.set i { reader with phase := .after next } }
  | leave {i : ℕ} {reader : Reader α ρ} (hreader : s.readers[i]? = some reader) :
      Moves cfg b s (.leave i)
        { s with readers := s.readers.set i { reader with phase := .left } }

theorem move_eq_some {l : BoundedQueue.Label (ℕ × α)} (h : s.move cfg l = some s') :
    ∃ queue, BoundedQueue.step (numbered cfg) s.queue l = some queue ∧
      s' = { s with queue } := by
  obtain ⟨queue, hqueue, rfl⟩ := Option.map_eq_some_iff.mp h
  exact ⟨queue, hqueue, rfl⟩

/-- **What a step can do.** -/
theorem step_cases (h : step cfg b s l = some s') : Moves cfg b s l s' := by
  cases l with
  | put x =>
    obtain ⟨queue, hqueue, rfl⟩ := move_eq_some h
    exact .put hqueue
  | resume i =>
    obtain ⟨queue, hqueue, rfl⟩ := move_eq_some h
    exact .resume hqueue
  | abandon i =>
    obtain ⟨queue, hqueue, rfl⟩ := move_eq_some h
    exact .abandon hqueue
  | close =>
    obtain rfl := Option.some.inj h
    exact .close
  | attach r =>
    obtain rfl := Option.some.inj h
    exact .attach r
  | take i =>
    obtain ⟨reader, hreader, h⟩ := Option.bind_eq_some_iff.mp h
    rw [State.takes] at h
    split at h
    · rename_i r x items hphase hitems
      obtain ⟨⟨keeps, next⟩, hread, rfl⟩ := Option.map_eq_some_iff.mp h
      exact .take hreader hphase hitems hread
    · cases h
  | turn i o =>
    obtain ⟨reader, hreader, h⟩ := Option.bind_eq_some_iff.mp h
    rw [State.turns] at h
    split at h
    · rename_i r hphase
      obtain ⟨next, hturn, rfl⟩ := Option.map_eq_some_iff.mp h
      exact .turn hreader hphase hturn
    all_goals cases h
  | leave i =>
    obtain ⟨reader, hreader, rfl⟩ := Option.map_eq_some_iff.mp h
    exact .leave hreader

/-! ### What the readers are owed -/

/-- The elements that were accepted after the reader came. -/
def State.owed (s : State α ρ) (reader : Reader α ρ) : List (ℕ × α) :=
  s.queue.accepted.drop reader.since

/-- What has come to the reader, and what still can: an element in the queue is of no use to a
reader that has ended. -/
def State.reaches (s : State α ρ) (reader : Reader α ρ) : List (ℕ × α) :=
  reader.received ++ if reader.phase.isReading then s.queue.items else []

/-- **Served**: what the reader is owed has come to it or can still come, in order. -/
def State.Served (s : State α ρ) (reader : Reader α ρ) : Prop :=
  reader.phase.hasLeft = true ∨ (s.owed reader).Sublist (s.reaches reader)

def State.AllServed (s : State α ρ) : Prop := ∀ reader ∈ s.readers, s.Served reader

/-- The serial numbers are different, and no reader has passed on what was not delivered. -/
structure State.Sound (cfg : Config α) (s : State α ρ) : Prop where
  queue : BoundedQueue.Sound (numbered cfg) s.queue
  fresh : ∀ x ∈ s.queue.waiting ++ s.queue.accepted, x.1 < s.puts
  numbers : ((s.queue.waiting ++ s.queue.accepted).map Prod.fst).Nodup
  received : ∀ reader ∈ s.readers, reader.received.Sublist s.queue.delivered
  since : ∀ reader ∈ s.readers, reader.since ≤ s.queue.accepted.length

theorem perm_insertLast {x : ℕ × α} {waiting accepted : List (ℕ × α)} :
    (waiting ++ (accepted ++ [x])).Perm (x :: (waiting ++ accepted)) := by
  rw [← List.append_assoc]
  exact List.perm_append_singleton x _

/-- Numbers that differ go on to differ, if a new one is not among them. -/
theorem numbers_of_step {q q' : BoundedQueue.State (ℕ × α)} {l : BoundedQueue.Label (ℕ × α)}
    (hnew : ∀ x, l = .put x → x.1 ∉ (q.waiting ++ q.accepted).map Prod.fst)
    (hnumbers : ((q.waiting ++ q.accepted).map Prod.fst).Nodup)
    (h : BoundedQueue.step (numbered cfg) q l = some q') :
    ((q'.waiting ++ q'.accepted).map Prod.fst).Nodup := by
  have hcons {x : ℕ × α} {all : List (ℕ × α)} (hl : l = .put x)
      (hperm : all.Perm (x :: (q.waiting ++ q.accepted))) : (all.map Prod.fst).Nodup :=
    (hperm.map Prod.fst).nodup_iff.mpr (List.nodup_cons.mpr ⟨hnew x hl, hnumbers⟩)
  cases BoundedQueue.step_cases h with
  | reject | take | close => exact hnumbers
  | put => exact hcons rfl perm_insertLast
  | @wait x =>
    refine hcons rfl ?_
    show (q.waiting ++ [x] ++ q.accepted).Perm _
    rw [List.append_assoc]
    exact List.perm_middle
  | @resume i x hx =>
    obtain ⟨hi, rfl⟩ := List.getElem?_eq_some_iff.mp hx
    have hperm := (List.getElem_cons_eraseIdx_perm hi).append_right q.accepted
    exact ((perm_insertLast.trans hperm).map Prod.fst).nodup_iff.mpr hnumbers
  | @abandon i x =>
    have hsub := (List.eraseIdx_sublist q.waiting i).append_right q.accepted
    exact hnumbers.sublist (hsub.map Prod.fst)

/-- What has been accepted stays accepted. -/
theorem accepted_of_step {q q' : BoundedQueue.State (ℕ × α)} {l : BoundedQueue.Label (ℕ × α)}
    (h : BoundedQueue.step (numbered cfg) q l = some q') : q.accepted <+: q'.accepted := by
  cases BoundedQueue.step_cases h with
  | reject | wait | abandon | take | close => exact List.prefix_rfl
  | put | resume => exact List.prefix_append _ _

/-- A step of the queue that is not a reader's. -/
theorem State.Sound.move {q : BoundedQueue.State (ℕ × α)} {l : BoundedQueue.Label (ℕ × α)}
    {puts : ℕ} (hs : s.Sound cfg) (htake : l ≠ .take) (hputs : s.puts ≤ puts)
    (hnew : ∀ x, l = .put x → x.1 = s.puts ∧ s.puts < puts)
    (h : BoundedQueue.step (numbered cfg) s.queue l = some q) :
    State.Sound cfg { s with queue := q, puts } where
  queue := BoundedQueue.sound_step hs.queue h
  fresh := by
    intro x hx
    rcases BoundedQueue.mem_of_step h hx with hx | hl
    · have := hs.fresh x hx
      show x.1 < puts
      omega
    · obtain ⟨hnumber, hlt⟩ := hnew x hl
      show x.1 < puts
      omega
  numbers := by
    refine numbers_of_step (fun x hl hx => ?_) hs.numbers h
    obtain ⟨y, hy, hnumber⟩ := List.mem_map.mp hx
    have hlt := hs.fresh y hy
    have heq := (hnew x hl).1
    omega
  received := by
    intro reader hreader
    show reader.received.Sublist q.delivered
    rw [BoundedQueue.delivered_of_step htake h]
    exact hs.received reader hreader
  since := by
    intro reader hreader
    exact Nat.le_trans (hs.since reader hreader) (accepted_of_step h).length_le

theorem sound_init (cfg : Config α) : State.Sound (ρ := ρ) cfg init where
  queue := BoundedQueue.sound_init _
  fresh := List.forall_mem_nil _
  numbers := List.nodup_nil
  received := List.forall_mem_nil _
  since := List.forall_mem_nil _

/-- A step of a reader that takes nothing. -/
theorem State.Sound.set {i : ℕ} {reader : Reader α ρ} {phase : Phase ρ} (hs : s.Sound cfg)
    (hreader : s.readers[i]? = some reader) :
    State.Sound cfg { s with readers := s.readers.set i { reader with phase } } where
  queue := hs.queue
  fresh := hs.fresh
  numbers := hs.numbers
  received :=
    Processes.forall_set (hs.received reader (List.mem_of_getElem? hreader)) hs.received
  since := Processes.forall_set (hs.since reader (List.mem_of_getElem? hreader)) hs.since

theorem sound_step (hs : s.Sound cfg) (h : step cfg b s l = some s') : s'.Sound cfg := by
  cases step_cases h with
  | put hqueue =>
    refine hs.move (by simp) (Nat.le_succ _) (fun x hl => ?_) hqueue
    obtain rfl := BoundedQueue.Label.put.inj hl
    exact ⟨rfl, Nat.lt_succ_self _⟩
  | resume hqueue => exact hs.move (by simp) (Nat.le_refl _) (by simp) hqueue
  | abandon hqueue => exact hs.move (by simp) (Nat.le_refl _) (by simp) hqueue
  | close =>
    exact hs.move (l := .close) (by simp) (Nat.le_refl _) (by simp) rfl
  | attach r =>
    exact ⟨hs.queue, hs.fresh, hs.numbers,
      Processes.forall_append (List.nil_sublist _) hs.received,
      Processes.forall_append (Nat.le_refl _) hs.since⟩
  | @take i reader r x items keeps next hreader hphase hitems hread =>
    have htake : BoundedQueue.step (numbered cfg) s.queue .take =
        some { s.queue with items, delivered := s.queue.delivered ++ [x] } := by
      rw [BoundedQueue.step, hitems]
    have hmem := List.mem_of_getElem? hreader
    refine ⟨BoundedQueue.sound_step hs.queue htake, hs.fresh, hs.numbers, ?_, ?_⟩
    · refine Processes.forall_set ?_ fun other hother => ?_
      · show (reader.take x keeps next).received.Sublist (s.queue.delivered ++ [x])
        rw [Reader.take]
        split
        · exact (hs.received reader hmem).append_right [x]
        · exact (hs.received reader hmem).trans (List.sublist_append_left _ _)
      · exact (hs.received other hother).trans (List.sublist_append_left _ _)
    · exact Processes.forall_set (hs.since reader hmem) hs.since
  | turn hreader => exact hs.set hreader
  | leave hreader => exact hs.set hreader

/-! ### Served, element by element -/

/-- In a list without duplicates, a part whose elements are in another part is a part of it. -/
theorem sublist_of_subset {l l₁ l₂ : List (ℕ × α)} (h₁ : l₁.Sublist l) (h₂ : l₂.Sublist l)
    (hl : l.Nodup) (hsub : ∀ x ∈ l₁, x ∈ l₂) : l₁.Sublist l₂ := by
  induction l generalizing l₁ l₂ with
  | nil =>
    rw [List.sublist_nil.mp h₁]
    exact List.nil_sublist _
  | cons a l ih =>
    obtain ⟨ha, hl⟩ := List.nodup_cons.mp hl
    rcases List.sublist_cons_iff.mp h₂ with h₂ | ⟨l₂, rfl, h₂'⟩
    · rcases List.sublist_cons_iff.mp h₁ with h₁ | ⟨l₁, rfl, h₁⟩
      · exact ih h₁ h₂ hl hsub
      · exact absurd (h₂.subset (hsub a List.mem_cons_self)) ha
    · rcases List.sublist_cons_iff.mp h₁ with h₁' | ⟨l₁, rfl, h₁'⟩
      · refine (ih h₁' h₂' hl fun x hx => ?_).trans (List.sublist_cons_self a l₂)
        refine (List.mem_cons.mp (hsub x hx)).resolve_left ?_
        rintro rfl
        exact ha (h₁'.subset hx)
      · refine (ih h₁' h₂' hl fun x hx => ?_).cons_cons a
        refine (List.mem_cons.mp (hsub x (List.mem_cons_of_mem a hx))).resolve_left ?_
        rintro rfl
        exact ha (h₁'.subset hx)

variable {reader : Reader α ρ}

theorem State.Sound.delivered (hs : s.Sound cfg) :
    (s.queue.delivered ++ s.queue.items).Sublist s.queue.accepted :=
  hs.queue.thinned.sublist

theorem State.Sound.nodup (hs : s.Sound cfg) : (s.queue.waiting ++ s.queue.accepted).Nodup :=
  List.Nodup.of_map Prod.fst hs.numbers

theorem State.Sound.nodup_accepted (hs : s.Sound cfg) : s.queue.accepted.Nodup :=
  hs.nodup.sublist (List.sublist_append_right _ _)

theorem State.Sound.accepted_of_mem_items (hs : s.Sound cfg) {x : ℕ × α}
    (hx : x ∈ s.queue.items) : x ∈ s.queue.accepted :=
  hs.delivered.subset (List.mem_append_right _ hx)

/-- What is still in the queue has come to no reader. -/
theorem State.Sound.notMem_received (hs : s.Sound cfg) (hreader : reader ∈ s.readers)
    {x : ℕ × α} (hx : x ∈ s.queue.items) : x ∉ reader.received := by
  intro hreceived
  have hnodup := hs.nodup_accepted.sublist hs.delivered
  have hdelivered := (hs.received reader hreader).subset hreceived
  exact (List.nodup_append.mp hnodup).2.2 x hdelivered x hx rfl

/-- **Served, element by element.** -/
theorem served_iff_forall (hs : s.Sound cfg) (hreader : reader ∈ s.readers) :
    s.Served reader ↔
      reader.phase.hasLeft = true ∨ ∀ x ∈ s.owed reader, x ∈ s.reaches reader := by
  refine or_congr_right ⟨fun h x hx => h.subset hx, fun h => ?_⟩
  have hreaches : (s.reaches reader).Sublist s.queue.accepted := by
    refine List.Sublist.trans ?_ hs.delivered
    refine (hs.received reader hreader).append ?_
    split
    · exact List.Sublist.refl _
    · exact List.nil_sublist _
  exact sublist_of_subset (List.drop_sublist _ _) hreaches hs.nodup_accepted h

theorem mem_reaches_of_reading {x : ℕ × α} (h : reader.phase.isReading = true) :
    x ∈ s.reaches reader ↔ x ∈ reader.received ∨ x ∈ s.queue.items := by
  rw [State.reaches, if_pos h, List.mem_append]

theorem mem_reaches_of_not_reading {x : ℕ × α} (h : reader.phase.isReading = false) :
    x ∈ s.reaches reader ↔ x ∈ reader.received := by
  rw [State.reaches, if_neg (by simp [h]), List.append_nil]

theorem mem_set_of_getElem? {l : List (Reader α ρ)} {i : ℕ} {reader' : Reader α ρ}
    (h : l[i]? = some reader) : reader' ∈ l.set i reader' := by
  obtain ⟨hi, -⟩ := List.getElem?_eq_some_iff.mp h
  exact List.mem_iff_getElem?.mpr ⟨i, List.getElem?_set_self hi⟩

/-- All readers after a step of one of them. -/
theorem allServed_set {i : ℕ} {reader' : Reader α ρ} {t : State α ρ}
    (hreader : s.readers[i]? = some reader) (hreaders : t.readers = s.readers.set i reader') :
    t.AllServed ↔ (∀ other ∈ s.readers.eraseIdx i, t.Served other) ∧ t.Served reader' := by
  obtain ⟨hi, -⟩ := List.getElem?_eq_some_iff.mp hreader
  have hmem (other : Reader α ρ) :
      other ∈ s.readers.set i reader' ↔ other = reader' ∨ other ∈ s.readers.eraseIdx i := by
    have hi' : i < (s.readers.set i reader').length := by simpa using hi
    have hperm := List.getElem_cons_eraseIdx_perm hi'
    rw [List.getElem_set_self, List.eraseIdx_set_eq] at hperm
    rw [← hperm.mem_iff, List.mem_cons]
  rw [State.AllServed, hreaders]
  simp only [hmem]
  constructor
  · intro hall
    exact ⟨fun other hother => hall other (.inr hother), hall reader' (.inl rfl)⟩
  · rintro ⟨hothers, hself⟩ other (rfl | hother)
    · exact hself
    · exact hothers other hother

/-! ### Fair steps -/

/-- The list has the element, by its number. -/
def has (l : List (ℕ × α)) (x : ℕ × α) : Bool := l.any fun y => y.1 == x.1

/-- The reader still reads, and the element is owed to it. -/
def State.awaits (s : State α ρ) (reader : Reader α ρ) (x : ℕ × α) : Bool :=
  reader.phase.isReading && has (s.owed reader) x

def State.noneEnded (s : State α ρ) : Bool := s.readers.all fun reader => !reader.phase.isEnded

/-- What is missing from the elements that are kept is awaited by no reader. -/
def State.keepsAwaited (s : State α ρ) (kept : List (ℕ × α)) : Bool :=
  s.readers.all fun reader => s.queue.items.all fun x => !s.awaits reader x || has kept x

/-- The reader passes on what it is owed, and does not end while the queue has more of it. -/
def State.readsAll (b : Behaviour α ρ ω) (s : State α ρ) (reader : Reader α ρ) (x : ℕ × α)
    (items : List (ℕ × α)) : Bool :=
  match reader.phase with
  | .reading r =>
    match b.read r x.2 with
    | some (keeps, next) =>
      (keeps || !has (s.owed reader) x) && (next.isSome || items.all (!has (s.owed reader) ·))
    | none => true
  | .ended | .left => true

/-- The reader does not end while the queue has something it is owed. -/
def State.staysOn (b : Behaviour α ρ ω) (s : State α ρ) (reader : Reader α ρ) (o : ω) : Bool :=
  match reader.phase with
  | .reading r =>
    match b.turn r s.queue.closed s.queue.items.isEmpty o with
    | some none => s.queue.items.all (!has (s.owed reader) ·)
    | _ => true
  | .ended | .left => true

/-- **Fair steps.** No reader takes what another awaits or skips what it is owed, nothing that a
reader awaits is dropped, and a reader ends only if no more is to come to it. -/
def fair (cfg : Config α) (b : Behaviour α ρ ω) (s : State α ρ) : Label α ρ ω → Bool
  | .put _ => s.queue.closed ||
      match room (numbered cfg) s.queue.items with
      | some kept => s.noneEnded && s.keepsAwaited kept
      | none => true
  | .resume _ => s.noneEnded
  | .take i =>
    match s.readers[i]?, s.queue.items with
    | some reader, x :: items =>
      (s.readers.eraseIdx i).all (!s.awaits · x) && s.readsAll b reader x items
    | _, _ => true
  | .turn i o => s.readers[i]?.all (s.staysOn b · o)
  | .abandon _ | .close | .attach _ | .leave _ => true

/-! ### A step is fair exactly if it serves -/

theorem State.Sound.has_iff (hs : s.Sound cfg) {l : List (ℕ × α)} {x : ℕ × α}
    (hl : ∀ y ∈ l, y ∈ s.queue.accepted) (hx : x ∈ s.queue.accepted) : has l x = true ↔ x ∈ l := by
  have hnumbers : (s.queue.accepted.map Prod.fst).Nodup :=
    hs.numbers.sublist ((List.sublist_append_right _ _).map Prod.fst)
  rw [has, List.any_eq_true]
  constructor
  · rintro ⟨y, hy, hnumber⟩
    rw [← List.inj_on_of_nodup_map hnumbers (hl y hy) hx (beq_iff_eq.mp hnumber)]
    exact hy
  · intro hmem
    exact ⟨x, hmem, beq_self_eq_true _⟩

theorem State.Sound.owes_iff (hs : s.Sound cfg) {x : ℕ × α} (hx : x ∈ s.queue.items) :
    has (s.owed reader) x = true ↔ x ∈ s.owed reader :=
  hs.has_iff (fun _ hy => List.mem_of_mem_drop hy) (hs.accepted_of_mem_items hx)

theorem State.Sound.not_owes_iff (hs : s.Sound cfg) {x : ℕ × α} (hx : x ∈ s.queue.items) :
    (!has (s.owed reader) x) = true ↔ x ∉ s.owed reader := by
  rw [Bool.not_eq_true', ← hs.owes_iff hx, Bool.not_eq_true]

/-- A reader after a new element is accepted. -/
theorem served_accept {kept : List (ℕ × α)} {x : ℕ × α} {t : State α ρ} (hs : s.Sound cfg)
    (ht : t.Sound cfg) (hreaders : t.readers = s.readers)
    (haccepted : t.queue.accepted = s.queue.accepted ++ [x]) (hitems : t.queue.items = kept ++ [x])
    (hnew : x ∉ s.queue.accepted)
    (hreader : reader ∈ s.readers) (hserved : s.Served reader) :
    t.Served reader ↔ reader.phase.isEnded = false ∧
      ∀ y ∈ s.queue.items, s.awaits reader y = true → y ∈ kept := by
  have howed : t.owed reader = s.owed reader ++ [x] := by
    rw [State.owed, State.owed, haccepted,
      List.drop_append_of_le_length (hs.since reader hreader)]
  have hnot : x ∉ reader.received := fun hx =>
    hnew (hs.delivered.subset (List.mem_append_left _ ((hs.received reader hreader).subset hx)))
  rw [served_iff_forall ht (hreaders ▸ hreader), howed]
  rw [served_iff_forall hs hreader] at hserved
  cases hphase : reader.phase with
  | left => simp [Phase.hasLeft, Phase.isEnded, State.awaits, hphase, Phase.isReading]
  | ended =>
    refine iff_of_false ?_ (by simp [Phase.isEnded])
    rintro (hleft | hall)
    · simp [Phase.hasLeft] at hleft
    · have hx := hall x (List.mem_append_right _ List.mem_cons_self)
      rw [mem_reaches_of_not_reading (by rw [hphase]; rfl)] at hx
      exact hnot hx
  | reading r =>
    have hreading : reader.phase.isReading = true := by rw [hphase]; rfl
    have hserved := hserved.resolve_left (by simp [hphase, Phase.hasLeft])
    simp only [mem_reaches_of_reading hreading] at hserved ⊢
    rw [hitems]
    constructor
    · intro hall
      refine ⟨rfl, fun y hy hawaits => ?_⟩
      have hy' := (hs.owes_iff hy).mp (Bool.and_eq_true_iff.mp hawaits).2
      have hcome := (hall.resolve_left (by simp [Phase.hasLeft])) y (List.mem_append_left _ hy')
      rcases hcome with hcome | hcome
      · exact absurd hcome (hs.notMem_received hreader hy)
      · refine (List.mem_append.mp hcome).resolve_right fun hyx => ?_
        rw [List.mem_singleton.mp hyx] at hy'
        exact hnew (List.mem_of_mem_drop hy')
    · rintro ⟨-, hall⟩
      refine .inr fun y hy => ?_
      rcases List.mem_append.mp hy with hy | hy
      · refine (hserved y hy).imp_right fun hitem => List.mem_append_left _ (hall y hitem ?_)
        rw [State.awaits, hreading, Bool.true_and]
        exact (hs.owes_iff hitem).mpr hy
      · exact .inr (List.mem_append_right _ hy)

theorem allServed_accept {kept : List (ℕ × α)} {x : ℕ × α} {t : State α ρ} (hs : s.Sound cfg)
    (ht : t.Sound cfg) (hreaders : t.readers = s.readers)
    (haccepted : t.queue.accepted = s.queue.accepted ++ [x]) (hitems : t.queue.items = kept ++ [x])
    (hsub : ∀ y ∈ kept, y ∈ s.queue.items) (hnew : x ∉ s.queue.accepted) (hall : s.AllServed) :
    t.AllServed ↔ s.noneEnded = true ∧ s.keepsAwaited kept = true := by
  have hkept (y : ℕ × α) (hy : y ∈ s.queue.items) : has kept y = true ↔ y ∈ kept := by
    refine hs.has_iff (fun z hz => ?_) (hs.accepted_of_mem_items hy)
    exact hs.accepted_of_mem_items (hsub z hz)
  have hiff (reader : Reader α ρ) (hreader : reader ∈ s.readers) :=
    served_accept hs ht hreaders haccepted hitems hnew hreader (hall reader hreader)
  rw [State.AllServed, hreaders, State.noneEnded, State.keepsAwaited, List.all_eq_true,
    List.all_eq_true, ← forall₂_and]
  refine forall₂_congr fun reader hreader => (hiff reader hreader).trans (and_congr ?_ ?_)
  · rw [Bool.not_eq_true']
  · rw [List.all_eq_true]
    refine forall₂_congr fun y hy => ?_
    rw [← hkept y hy]
    cases s.awaits reader y <;> simp

/-- Another reader after the oldest element is taken. -/
theorem served_other {x : ℕ × α} {items : List (ℕ × α)} {t : State α ρ} (hs : s.Sound cfg)
    (howed : t.owed reader = s.owed reader) (hitems : s.queue.items = x :: items)
    (hitems' : t.queue.items = items) (ht : t.Sound cfg) (hreader' : reader ∈ t.readers)
    (hreader : reader ∈ s.readers) (hserved : s.Served reader) :
    t.Served reader ↔ s.awaits reader x = false := by
  rw [served_iff_forall ht hreader', howed]
  rw [served_iff_forall hs hreader] at hserved
  have hx : x ∉ reader.received := hs.notMem_received hreader (hitems ▸ List.mem_cons_self)
  have hnodup : (x :: items).Nodup :=
    hitems ▸ (hs.nodup_accepted.sublist hs.delivered).sublist (List.sublist_append_right _ _)
  cases hphase : reader.phase with
  | left => simp [Phase.hasLeft, State.awaits, hphase, Phase.isReading]
  | ended =>
    have hreading : reader.phase.isReading = false := by rw [hphase]; rfl
    have hserved := hserved.resolve_left (by simp [hphase, Phase.hasLeft])
    simp only [mem_reaches_of_not_reading hreading] at hserved ⊢
    refine iff_of_true (.inr hserved) ?_
    rw [State.awaits, hreading, Bool.false_and]
  | reading r =>
    have hreading : reader.phase.isReading = true := by rw [hphase]; rfl
    have hserved := hserved.resolve_left (by simp [hphase, Phase.hasLeft])
    simp only [mem_reaches_of_reading hreading] at hserved ⊢
    rw [State.awaits, hreading, Bool.true_and, hitems', ← Bool.not_eq_true',
      hs.not_owes_iff (hitems ▸ List.mem_cons_self)]
    constructor
    · intro hall howes
      rcases (hall.resolve_left (by simp [Phase.hasLeft])) x howes with hcome | hcome
      · exact hx hcome
      · exact (List.nodup_cons.mp hnodup).1 hcome
    · intro hnot
      refine .inr fun y hy => (hserved y hy).imp_right fun hitem => ?_
      rw [hitems] at hitem
      refine (List.mem_cons.mp hitem).resolve_left ?_
      rintro rfl
      exact hnot hy

/-- The reader itself after it has taken the oldest element. -/
theorem served_take {r : ρ} {x : ℕ × α} {items : List (ℕ × α)} {keeps : Bool} {next : Option ρ}
    {t : State α ρ} (hs : s.Sound cfg) (haccepted : t.queue.accepted = s.queue.accepted)
    (hitems : s.queue.items = x :: items) (hitems' : t.queue.items = items) (ht : t.Sound cfg)
    (hreader' : reader.take x keeps next ∈ t.readers) (hreader : reader ∈ s.readers)
    (hphase : reader.phase = .reading r) (hread : b.read r x.2 = some (keeps, next))
    (hserved : s.Served reader) :
    t.Served (reader.take x keeps next) ↔ s.readsAll b reader x items = true := by
  have howed : t.owed (reader.take x keeps next) = s.owed reader := by
    rw [State.owed, State.owed, haccepted, Reader.take]
  have hreading : reader.phase.isReading = true := by rw [hphase]; rfl
  rw [served_iff_forall hs hreader] at hserved
  have hserved := hserved.resolve_left (by simp [hphase, Phase.hasLeft])
  simp only [mem_reaches_of_reading hreading, hitems, List.mem_cons] at hserved
  have hx : x ∉ reader.received := hs.notMem_received hreader (hitems ▸ List.mem_cons_self)
  have hlater : ∀ y ∈ items, y ∉ reader.received := fun y hy =>
    hs.notMem_received hreader (hitems ▸ List.mem_cons_of_mem x hy)
  have hnodup : (x :: items).Nodup :=
    hitems ▸ (hs.nodup_accepted.sublist hs.delivered).sublist (List.sublist_append_right _ _)
  have hne : x ∉ items := (List.nodup_cons.mp hnodup).1
  have hreceived (y : ℕ × α) : y ∈ (reader.take x keeps next).received ↔
      y ∈ reader.received ∨ (keeps = true ∧ y = x) := by
    rw [Reader.take]
    cases keeps <;> simp
  rw [served_iff_forall ht hreader', howed, State.readsAll, hphase]
  dsimp only
  rw [hread]
  dsimp only
  have hskips : (keeps || !has (s.owed reader) x) = true ↔ x ∈ s.owed reader → keeps = true := by
    rw [← hs.owes_iff (hitems ▸ List.mem_cons_self)]
    cases keeps <;> simp
  have hrest : items.all (!has (s.owed reader) ·) = true ↔ ∀ y ∈ items, y ∉ s.owed reader := by
    rw [List.all_eq_true]
    exact forall₂_congr fun y hy => hs.not_owes_iff (hitems ▸ List.mem_cons_of_mem x hy)
  rw [Bool.and_eq_true, hskips]
  cases next with
  | some r' =>
    have hreading' : (reader.take x keeps (some r')).phase.isReading = true := rfl
    simp only [mem_reaches_of_reading hreading', hreceived, hitems', Option.isSome_some,
      Bool.true_or, and_true]
    constructor
    · intro hall howes
      rcases (hall.resolve_left (by simp [Reader.take, Phase.after, Phase.hasLeft])) x howes with
        (hcome | ⟨hkeeps, -⟩) | hcome
      · exact absurd hcome hx
      · exact hkeeps
      · exact absurd hcome hne
    · intro hkeeps
      refine .inr fun y hy => ?_
      rcases hserved y hy with hcome | rfl | hcome
      · exact .inl (.inl hcome)
      · exact .inl (.inr ⟨hkeeps hy, rfl⟩)
      · exact .inr hcome
  | none =>
    have hreading' : (reader.take x keeps none).phase.isReading = false := rfl
    simp only [mem_reaches_of_not_reading hreading', hreceived, Option.isSome_none, Bool.false_or,
      hrest]
    constructor
    · intro hall
      have hall := hall.resolve_left (by simp [Reader.take, Phase.after, Phase.hasLeft])
      refine ⟨fun howes => ?_, fun y hy howes => ?_⟩
      · rcases hall x howes with hcome | ⟨hkeeps, -⟩
        · exact absurd hcome hx
        · exact hkeeps
      · rcases hall y howes with hcome | ⟨-, rfl⟩
        · exact hlater y hy hcome
        · exact hne hy
    · rintro ⟨hkeeps, hrest⟩
      refine .inr fun y hy => ?_
      rcases hserved y hy with hcome | rfl | hcome
      · exact .inl hcome
      · exact .inr ⟨hkeeps hy, rfl⟩
      · exact absurd hy (hrest y hcome)

/-- A reader after a step of its own that takes nothing. -/
theorem served_turn {r : ρ} {next : Option ρ} {o : ω} {t : State α ρ} (hs : s.Sound cfg)
    (hqueue : t.queue = s.queue) (ht : t.Sound cfg)
    (hreader' : { reader with phase := .after next } ∈ t.readers) (hreader : reader ∈ s.readers)
    (hphase : reader.phase = .reading r)
    (hturn : b.turn r s.queue.closed s.queue.items.isEmpty o = some next)
    (hserved : s.Served reader) :
    t.Served { reader with phase := .after next } ↔ s.staysOn b reader o = true := by
  have howed : t.owed { reader with phase := .after next } = s.owed reader := by
    rw [State.owed, State.owed, hqueue]
  have hreading : reader.phase.isReading = true := by rw [hphase]; rfl
  rw [served_iff_forall hs hreader] at hserved
  have hserved := hserved.resolve_left (by simp [hphase, Phase.hasLeft])
  simp only [mem_reaches_of_reading hreading] at hserved
  rw [served_iff_forall ht hreader', howed, State.staysOn, hphase]
  dsimp only
  rw [hturn]
  cases next with
  | some r' =>
    refine iff_of_true (.inr fun x hx => ?_) rfl
    rw [mem_reaches_of_reading rfl, hqueue]
    exact hserved x hx
  | none =>
    have hreading' : ({ reader with phase := .after none } : Reader α ρ).phase.isReading = false :=
      rfl
    have hrest : s.queue.items.all (!has (s.owed reader) ·) = true ↔
        ∀ y ∈ s.queue.items, y ∉ s.owed reader := by
      rw [List.all_eq_true]
      exact forall₂_congr fun y hy => hs.not_owes_iff hy
    simp only [mem_reaches_of_not_reading hreading', hrest]
    constructor
    · intro hall y hy howes
      have hcome := (hall.resolve_left (by simp [Phase.after, Phase.hasLeft])) y howes
      exact hs.notMem_received hreader hy hcome
    · intro hnone
      refine .inr fun y hy => (hserved y hy).resolve_right fun hitem => ?_
      exact hnone y hitem hy

/-- **A step is fair exactly if it serves.** -/
theorem allServed_step_iff (hs : s.Sound cfg) (hall : s.AllServed)
    (h : step cfg b s l = some s') : s'.AllServed ↔ fair cfg b s l = true := by
  have hs' : s'.Sound cfg := sound_step hs h
  cases step_cases h with
  | @put x queue hqueue =>
    have hnew : (s.puts, x) ∉ s.queue.accepted := fun hx =>
      absurd (hs.fresh _ (List.mem_append_right _ hx)) (Nat.lt_irrefl _)
    rw [fair]
    cases BoundedQueue.step_cases hqueue with
    | reject _ hclosed =>
      rw [hclosed]
      exact iff_of_true hall rfl
    | put hopen hroom =>
      rw [hopen, hroom, Bool.false_or, Bool.and_eq_true]
      have hsub := (room_eq_some hroom hs.queue.length).2.1.sublist.subset
      exact allServed_accept hs hs' rfl rfl rfl hsub hnew hall
    | wait hopen hroom =>
      rw [hopen, hroom]
      exact iff_of_true hall rfl
  | @resume i queue hqueue =>
    cases BoundedQueue.step_cases hqueue with
    | @resume _ x hx hroom =>
      have hnew : x ∉ s.queue.accepted := fun haccepted =>
        (List.nodup_append.mp hs.nodup).2.2 x (List.mem_of_getElem? hx) x haccepted rfl
      refine (allServed_accept hs hs' rfl rfl rfl (fun _ hy => hy) hnew hall).trans
        (and_iff_left ?_)
      simp only [State.keepsAwaited, List.all_eq_true]
      intro reader _ y hy
      have hkept := hs.has_iff (fun _ hz => hs.accepted_of_mem_items hz)
        (hs.accepted_of_mem_items hy)
      rw [hkept.mpr hy, Bool.or_true]
  | abandon hqueue =>
    cases BoundedQueue.step_cases hqueue with
    | abandon => exact iff_of_true hall rfl
  | close => exact iff_of_true hall rfl
  | attach r =>
    refine iff_of_true (Processes.forall_append (.inr ?_) hall) rfl
    show (s.queue.accepted.drop s.queue.accepted.length).Sublist _
    rw [List.drop_length]
    exact List.nil_sublist _
  | @take i reader r x items keeps next hreader hphase hitems hread =>
    have hmem := List.mem_of_getElem? hreader
    have hset := allServed_set (t := { s with
      queue := { s.queue with items, delivered := s.queue.delivered ++ [x] }
      readers := s.readers.set i (reader.take x keeps next) }) hreader rfl
    have hmem' : reader.take x keeps next ∈ s.readers.set i (reader.take x keeps next) :=
      mem_set_of_getElem? hreader
    rw [fair, hreader, hitems, hset, Bool.and_eq_true, List.all_eq_true]
    refine and_congr (forall₂_congr fun other hother => ?_) ?_
    · rw [Bool.not_eq_true']
      have hother' := List.mem_of_mem_eraseIdx hother
      refine served_other hs rfl hitems rfl hs' ?_ hother' (hall other hother')
      show other ∈ s.readers.set i _
      obtain ⟨j, hj, hother⟩ := List.mem_eraseIdx_iff_getElem?.mp hother
      refine List.mem_of_getElem? (i := j) ?_
      rwa [List.getElem?_set_ne (Ne.symm hj)]
    · exact served_take hs rfl hitems rfl hs' hmem' hmem hphase hread (hall reader hmem)
  | @turn i o reader r next hreader hphase hturn =>
    have hmem := List.mem_of_getElem? hreader
    have hset := allServed_set (t := { s with
      readers := s.readers.set i { reader with phase := .after next } }) hreader rfl
    rw [fair, hreader, hset]
    refine Iff.trans (and_iff_right fun other hother =>
      hall other (List.mem_of_mem_eraseIdx hother)) ?_
    exact served_turn hs rfl hs' (mem_set_of_getElem? hreader) hmem
      hphase hturn (hall reader hmem)
  | leave hreader => exact iff_of_true (Processes.forall_set (.inl rfl) hall) rfl

/-- **When every reader is served**: exactly if all steps of the run are fair. -/
theorem served_iff {labels : List (Label α ρ ω)} (h : exec (step cfg b) init labels = some s) :
    (∀ pre t, pre <+: labels → exec (step cfg b) init pre = some t → t.AllServed) ↔
      Along (step cfg b) (fun t l => fair cfg b t l = true) init labels :=
  forall_prefix_iff_along (fun _ _ _ => sound_step) (fun _ _ _ => allServed_step_iff)
    (sound_init cfg) (List.forall_mem_nil _) h

end SharedQueue

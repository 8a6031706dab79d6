import Mathlib.Data.List.Basic

/-!
# Locks of a transaction with savepoints

A transaction keeps each lock until it ends, or until it is rolled back to a savepoint that it set
before it took the lock. Releasing a savepoint gives its locks to what encloses it.

## Main definitions

* `Locks` — the locks of an open transaction
* `Locks.beginNested`, `Locks.acquire`, `Locks.release`, `Locks.rollback`

## Main results

* `Locks.mem_held_release`, `Locks.rollback_acquire` — what is held after a savepoint is released,
  and after a rollback to it
-/

namespace Savepoints

variable {ι : Type*}

/-- The locks of an open transaction: those taken after each open savepoint, the innermost first,
and those taken outside of all savepoints. -/
structure Locks (ι : Type*) where
  savepoints : List (List ι)
  outside : List ι

namespace Locks

/-- The locks of a transaction that has taken none. -/
def empty : Locks ι := ⟨[], []⟩

def held (l : Locks ι) : List ι := l.savepoints.flatten ++ l.outside

/-- `SAVEPOINT` -/
def beginNested (l : Locks ι) : Locks ι := { l with savepoints := [] :: l.savepoints }

def acquire (l : Locks ι) (i : ι) : Locks ι :=
  match l.savepoints with
  | [] => { l with outside := i :: l.outside }
  | inner :: outer => { l with savepoints := (i :: inner) :: outer }

/-- `RELEASE SAVEPOINT` -/
def release (l : Locks ι) : Locks ι :=
  match l.savepoints with
  | [] => l
  | [inner] => { savepoints := [], outside := inner ++ l.outside }
  | inner :: next :: outer => { l with savepoints := (inner ++ next) :: outer }

/-- `ROLLBACK TO SAVEPOINT` -/
def rollback (l : Locks ι) : Locks ι := { l with savepoints := l.savepoints.tail }

variable {l : Locks ι} {i j : ι}

@[simp] theorem held_empty : (empty : Locks ι).held = [] := rfl

@[simp] theorem held_beginNested : l.beginNested.held = l.held := rfl

@[simp] theorem mem_held_acquire : j ∈ (l.acquire i).held ↔ j = i ∨ j ∈ l.held := by
  obtain ⟨savepoints, outside⟩ := l
  cases savepoints with
  | nil => simp [acquire, held]
  | cons inner outer => simp [acquire, held]

/-- Nothing is given up when a savepoint is released. -/
@[simp] theorem mem_held_release : j ∈ l.release.held ↔ j ∈ l.held := by
  obtain ⟨savepoints, outside⟩ := l
  match savepoints with
  | [] => rfl
  | [inner] => simp [release, held]
  | inner :: next :: outer => simp [release, held]

/-- A rollback gives up a lock that was taken after the savepoint. -/
@[simp] theorem rollback_acquire : (l.beginNested.acquire i).rollback = l := rfl

@[simp] theorem rollback_beginNested : l.beginNested.rollback = l := rfl

end Locks

end Savepoints

import Mathlib.Tactic.TypeStar
import Mathlib.Data.List.Basic

/-!
# Programs over a database session

A program that queries a database through one session, writes to it, commits what it has written,
and starts tasks. Every statement has a name, and any of them may fail.

## What a failure leaves

A statement that fails has no effect. A `COMMIT` that fails may have had its effect all the same,
when only the answer to it was lost. What was written and not committed is gone, unless the session
can still be used. After a failed flush or commit it cannot, until it is rolled back; after another
failed statement this depends on the database. A statement on a session that cannot be used raises
and does nothing.

## Main definitions

* `Program`, `Session`, `Fault`
* `Program.run` — what a program does to a session when one of its statements fails

## Main results

* `Session.committed_afterFailure`, `Session.committed_afterCommit` — what a failure leaves in the
  database
* `Program.Keeps.committed_run` — a program whose writes keep an invariant
-/

namespace UnitOfWork

variable {δ σ τ ε β : Type*}

/-- A program over a database `δ` whose statements are named by `σ`. It starts tasks `τ`, raises
`ε` or returns `β`. -/
inductive Program (δ σ τ ε β : Type*)
  | done (b : β)
  | raise (e : ε)
  /-- a `SELECT` -/
  | query (point : σ) (next : δ → Program δ σ τ ε β)
  /-- a statement that writes -/
  | execute (point : σ) (write : δ → δ) (next : Program δ σ τ ε β)
  /-- an `INSERT` that the session makes when it commits; a constraint may refuse it -/
  | flush (point : σ) (write : δ → Option δ) (next : Program δ σ τ ε β)
  | commit (point : σ) (next : Program δ σ τ ε β)
  | start (task : τ) (next : Program δ σ τ ε β)

/-- A session: the database, and the database as its open transaction sees it. -/
structure Session (δ : Type*) where
  committed : δ
  working : δ
  usable : Bool

/-- A session that has just been opened. -/
def Session.open (db : δ) : Session δ := ⟨db, db, true⟩

/-- The statement that fails, if the program comes to it. -/
structure Fault (σ : Type*) where
  point : σ
  /-- A `COMMIT` has had its effect, and only the answer was lost. -/
  durable : Bool
  /-- The session can still be used after a failed statement. -/
  usable : Bool

/-- Why a program raises. -/
inductive Raised (ε : Type*)
  | raised (e : ε)
  /-- a statement failed -/
  | failed
  /-- a constraint refused an `INSERT` -/
  | refused
  /-- the session cannot be used -/
  | unusable
deriving DecidableEq

structure Effects (δ τ ε β : Type*) where
  session : Session δ
  started : List τ
  result : Except (Raised ε) β

/-- After the transaction was aborted. -/
def Session.abort (s : Session δ) : Session δ :=
  { s with working := s.committed, usable := false }

/-- After a statement that is neither a flush nor a commit has failed. -/
def Session.afterFailure (s : Session δ) (fault : Fault σ) : Session δ :=
  if fault.usable then s else s.abort

/-- After a commit has failed. -/
def Session.afterCommit (s : Session δ) (fault : Fault σ) : Session δ :=
  if fault.durable then { s with committed := s.working, usable := false } else s.abort

def Session.commit (s : Session δ) : Session δ := { s with committed := s.working }

@[simp] theorem Session.committed_open (db : δ) : (Session.open db).committed = db := rfl

@[simp] theorem Session.working_open (db : δ) : (Session.open db).working = db := rfl

@[simp] theorem Session.usable_open (db : δ) : (Session.open db).usable = true := rfl

@[simp] theorem Session.commit_mk (db db' : δ) (usable : Bool) :
    Session.commit ⟨db, db', usable⟩ = ⟨db', db', usable⟩ := rfl

@[simp] theorem Session.committed_abort (s : Session δ) : s.abort.committed = s.committed := rfl

@[simp] theorem Session.usable_abort (s : Session δ) : s.abort.usable = false := rfl

@[simp] theorem Session.committed_afterFailure (s : Session δ) (fault : Fault σ) :
    (s.afterFailure fault).committed = s.committed := by
  rw [afterFailure]
  split <;> rfl

@[simp] theorem Session.usable_afterFailure (s : Session δ) (fault : Fault σ) :
    (s.afterFailure fault).usable = (fault.usable && s.usable) := by
  rw [afterFailure]
  cases fault.usable <;> rfl

@[simp] theorem Session.committed_afterCommit (s : Session δ) (fault : Fault σ) :
    (s.afterCommit fault).committed = if fault.durable then s.working else s.committed := by
  rw [afterCommit]
  split <;> rfl

@[simp] theorem Session.usable_afterCommit (s : Session δ) (fault : Fault σ) :
    (s.afterCommit fault).usable = false := by
  rw [afterCommit]
  split <;> rfl

section Run

variable [DecidableEq σ]

/-- The statement is the one that fails. -/
def Fault.isAt (fault : Option (Fault σ)) (point : σ) : Option (Fault σ) :=
  fault.filter (·.point = point)

@[simp] theorem Fault.isAt_none (point : σ) : isAt none point = none := rfl

@[simp] theorem Fault.isAt_some (fault : Fault σ) (point : σ) :
    isAt (some fault) point = if fault.point = point then some fault else none := by
  simp [isAt, Option.filter_some]

/-- **What a program does.** -/
def Program.run (fault : Option (Fault σ)) (s : Session δ) : Program δ σ τ ε β → Effects δ τ ε β
  | .done b => ⟨s, [], .ok b⟩
  | .raise e => ⟨s, [], .error (.raised e)⟩
  | .query point next =>
    if s.usable then
      match Fault.isAt fault point with
      | some fault => ⟨s.afterFailure fault, [], .error .failed⟩
      | none => (next s.working).run fault s
    else ⟨s, [], .error .unusable⟩
  | .execute point write next =>
    if s.usable then
      match Fault.isAt fault point with
      | some fault => ⟨s.afterFailure fault, [], .error .failed⟩
      | none => next.run fault { s with working := write s.working }
    else ⟨s, [], .error .unusable⟩
  | .flush point write next =>
    if s.usable then
      match Fault.isAt fault point, write s.working with
      | some _, _ => ⟨s.abort, [], .error .failed⟩
      | none, none => ⟨s.abort, [], .error .refused⟩
      | none, some db => next.run fault { s with working := db }
    else ⟨s, [], .error .unusable⟩
  | .commit point next =>
    if s.usable then
      match Fault.isAt fault point with
      | some fault => ⟨s.afterCommit fault, [], .error .failed⟩
      | none => next.run fault s.commit
    else ⟨s, [], .error .unusable⟩
  | .start task next =>
    let effects := next.run fault s
    { effects with started := task :: effects.started }

section

variable (fault : Option (Fault σ)) (s : Session δ)

@[simp] theorem Program.run_done (b : β) :
    (Program.done b : Program δ σ τ ε β).run fault s = ⟨s, [], .ok b⟩ := by
  rw [Program.run]

@[simp] theorem Program.run_raise (e : ε) :
    (Program.raise e : Program δ σ τ ε β).run fault s = ⟨s, [], .error (.raised e)⟩ := by
  rw [Program.run]

end

/-! ### Invariants -/

omit [DecidableEq σ] in
/-- Every write of the program keeps `I`. It may rely on `I` for what it reads. -/
def Program.Keeps (I : δ → Prop) : Program δ σ τ ε β → Prop
  | .done _ => True
  | .raise _ => True
  | .query _ next => ∀ db, I db → (next db).Keeps I
  | .execute _ write next => (∀ db, I db → I (write db)) ∧ next.Keeps I
  | .flush _ write next => (∀ db db', I db → write db = some db' → I db') ∧ next.Keeps I
  | .commit _ next => next.Keeps I
  | .start _ next => next.Keeps I

section

variable {I : δ → Prop} {point : σ}

omit [DecidableEq σ] in
theorem Program.keeps_query {next : δ → Program δ σ τ ε β} :
    (Program.query point next).Keeps I ↔ ∀ db, I db → (next db).Keeps I := Iff.rfl

omit [DecidableEq σ] in
theorem Program.keeps_flush {write : δ → Option δ} {next : Program δ σ τ ε β} :
    (Program.flush point write next).Keeps I ↔
      (∀ db db', I db → write db = some db' → I db') ∧ next.Keeps I := Iff.rfl

end

/-- **The invariant rule for programs.** A program that keeps `I` leaves it true of the database,
whichever of its statements fails. -/
theorem Program.Keeps.committed_run {I : δ → Prop} {program : Program δ σ τ ε β}
    (h : program.Keeps I) (fault : Option (Fault σ)) {s : Session δ} (hs : I s.committed)
    (hw : I s.working) : I (program.run fault s).session.committed := by
  induction program generalizing s with
  | done b => rwa [Program.run_done]
  | raise e => rwa [Program.run_raise]
  | query point next ih =>
    rw [Program.run]
    split
    · split
      · rwa [Session.committed_afterFailure]
      · exact ih _ (h _ hw) hs hw
    · exact hs
  | execute point write next ih =>
    rw [Program.run]
    split
    · split
      · rwa [Session.committed_afterFailure]
      · exact ih h.2 hs (h.1 _ hw)
    · exact hs
  | flush point write next ih =>
    rw [Program.run]
    split
    · split
      · exact hs
      · exact hs
      · next hwrite => exact ih h.2 hs (h.1 _ _ hw hwrite)
    · exact hs
  | commit point next ih =>
    rw [Program.run]
    split
    · split
      · rw [Session.committed_afterCommit]
        split
        · exact hw
        · exact hs
      · exact ih h hw hw
    · exact hs
  | start task next ih => exact ih h hs hw

end Run

end UnitOfWork

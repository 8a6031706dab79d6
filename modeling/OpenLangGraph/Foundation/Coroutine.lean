import Mathlib.Tactic.TypeStar
import Mathlib.Data.Nat.Notation

/-!
# Coroutines that can be cancelled

A coroutine awaits, and whenever it does, it is suspended until its task is resumed: with a value,
or with an exception that is thrown into it at the await. What it has done is determined by how it
has been resumed so far. A coroutine that has not ended may go on for ever.

## Cancellation

A cancellation is an exception that is thrown into a task at one of its awaits. The task may have
been asked to cancel, or the time of one of the `wait_for` calls that it is in may be over. The
outermost such call makes a `TimeoutError` of its own cancellation; until then nothing tells the two
apart. A timer is named by its depth, the number of calls inside of it.

## Main definitions

* `Raised`, `Resumption`, `Progress`, `Coroutine`
* `andThen`, from which `bind` and `tryCatch` come
* `settle`, `recover`, `waitFor`

## Main results

* `andThen_assoc`
* `bind_ofExcept_eq`, `recover_eq`, `waitFor_eq` — what only changes how a coroutine ends
-/

namespace Coroutine

/-- What is raised: an exception `ε`, or a cancellation. -/
inductive Raised (ε : Type*)
  /-- a `CancelledError` that the task was asked for -/
  | cancelled
  /-- a `CancelledError` of the timer of an enclosing `wait_for` -/
  | expired (depth : ℕ)
  | exception (e : ε)
  /-- an exception that is no `Exception` -/
  | fatal (e : ε)

/-- How an await ends. -/
abbrev Resumption (ι ε : Type*) := Except (Raised ε) ι

/-- What a coroutine has done. -/
structure Progress (ι ω ε α : Type*) where
  events : List ω
  /-- How it has ended, and the resumptions that are left; `none` while it is suspended. -/
  ending : Option (Except (Raised ε) α × List (Resumption ι ε))

end Coroutine

/-- A coroutine whose awaits end with `ι`. It does `ω`, raises `ε` or returns `α`. -/
def Coroutine (ι ω ε α : Type*) := List (Coroutine.Resumption ι ε) → Coroutine.Progress ι ω ε α

namespace Coroutine

variable {ι ω ω' ε α β γ : Type*}

def ofExcept (r : Except (Raised ε) α) : Coroutine ι ω ε α := fun resumptions =>
  ⟨[], some (r, resumptions)⟩

def ret (a : α) : Coroutine ι ω ε α := ofExcept (.ok a)

def raise (e : Raised ε) : Coroutine ι ω ε α := ofExcept (.error e)

def emit (w : ω) : Coroutine ι ω ε Unit := fun resumptions => ⟨[w], some (.ok (), resumptions)⟩

def await : Coroutine ι ω ε ι
  | [] => ⟨[], none⟩
  | r :: resumptions => ⟨[], some (r, resumptions)⟩

/-- A coroutine and what follows, whichever way it ends. -/
def andThen (p : Coroutine ι ω ε α) (next : Except (Raised ε) α → Coroutine ι ω ε β) :
    Coroutine ι ω ε β := fun resumptions =>
  match p resumptions with
  | ⟨events, none⟩ => ⟨events, none⟩
  | ⟨events, some (r, rest)⟩ => ⟨events ++ (next r rest).events, (next r rest).ending⟩

def bind (p : Coroutine ι ω ε α) (next : α → Coroutine ι ω ε β) : Coroutine ι ω ε β :=
  p.andThen fun
    | .ok a => next a
    | .error e => raise e

def tryCatch (p : Coroutine ι ω ε α) (handler : Raised ε → Coroutine ι ω ε α) :
    Coroutine ι ω ε α :=
  p.andThen fun
    | .ok a => ret a
    | .error e => handler e

/-- How a coroutine ends, and what it has done until then. -/
def settle (p : Coroutine ι ω ε α) : Coroutine ι ω ε (Except (Raised ε) α × List ω) :=
  fun resumptions =>
    { p resumptions with
      ending := (p resumptions).ending.map fun (r, rest) =>
        (.ok (r, (p resumptions).events), rest) }

/-- A coroutine whose events are those of another, under other names. -/
def mapEvents (f : ω → ω') (p : Coroutine ι ω ε α) : Coroutine ι ω' ε α := fun resumptions =>
  ⟨(p resumptions).events.map f, (p resumptions).ending⟩

/-- A coroutine that ends otherwise. -/
def mapEnding (f : Except (Raised ε) α → Except (Raised ε) β) (p : Coroutine ι ω ε α) :
    Coroutine ι ω ε β := fun resumptions =>
  ⟨(p resumptions).events, (p resumptions).ending.map fun (r, rest) => (f r, rest)⟩

/-- A `try` with an `except Exception` that returns. -/
def recover (p : Coroutine ι ω ε α) (f : ε → α) : Coroutine ι ω ε α :=
  p.tryCatch fun
    | .exception e => ret (f e)
    | e => raise e

/-- What a timer makes of an exception: its own cancellation becomes a `TimeoutError`. -/
def underTimer (timeoutError : ε) : Raised ε → Raised ε
  | .expired 0 => .exception timeoutError
  | .expired (depth + 1) => .expired depth
  | e => e

/-- `asyncio.wait_for`, which runs a coroutine in the same task under a timer. -/
def waitFor (p : Coroutine ι ω ε α) (timeoutError : ε) : Coroutine ι ω ε α :=
  p.tryCatch fun e => raise (underTimer timeoutError e)

/-! ### One after the other -/

variable {p : Coroutine ι ω ε α} {resumptions rest : List (Resumption ι ε)} {events : List ω}
variable {r : Except (Raised ε) α} {next : Except (Raised ε) α → Coroutine ι ω ε β}

theorem andThen_of_suspended (h : p resumptions = ⟨events, none⟩) :
    p.andThen next resumptions = ⟨events, none⟩ := by
  rw [andThen, h]

theorem andThen_of_ended (h : p resumptions = ⟨events, some (r, rest)⟩) :
    p.andThen next resumptions = ⟨events ++ (next r rest).events, (next r rest).ending⟩ := by
  rw [andThen, h]

@[simp] theorem andThen_ofExcept (r : Except (Raised ε) α) :
    (ofExcept r : Coroutine ι ω ε α).andThen next = next r := by
  funext resumptions
  have h : (ofExcept r : Coroutine ι ω ε α) resumptions = ⟨[], some (r, resumptions)⟩ := rfl
  rw [andThen_of_ended h]
  rfl

@[simp] theorem bind_ok (a : α) (next : α → Coroutine ι ω ε β) :
    (ofExcept (.ok a)).bind next = next a :=
  andThen_ofExcept _

@[simp] theorem bind_error (e : Raised ε) (next : α → Coroutine ι ω ε β) :
    (ofExcept (.error e)).bind next = raise e :=
  andThen_ofExcept _

theorem andThen_assoc (p : Coroutine ι ω ε α) (next : Except (Raised ε) α → Coroutine ι ω ε β)
    (last : Except (Raised ε) β → Coroutine ι ω ε γ) :
    (p.andThen next).andThen last = p.andThen fun r => (next r).andThen last := by
  funext resumptions
  rcases h : p resumptions with ⟨events, _ | ⟨r, rest⟩⟩
  · rw [andThen_of_suspended h, andThen_of_suspended (andThen_of_suspended h)]
  · rcases h' : next r rest with ⟨events', _ | ⟨r', rest'⟩⟩
    · rw [andThen_of_ended h, andThen_of_suspended h']
      exact andThen_of_suspended (by rw [andThen_of_ended h, h'])
    · rw [andThen_of_ended h, andThen_of_ended h',
        andThen_of_ended (by rw [andThen_of_ended h, h']), List.append_assoc]

@[simp] theorem andThen_emit (w : ω) (next : Except (Raised ε) Unit → Coroutine ι ω ε β)
    (resumptions : List (Resumption ι ε)) :
    (emit w).andThen next resumptions =
      ⟨w :: (next (.ok ()) resumptions).events, (next (.ok ()) resumptions).ending⟩ := by
  have h : emit w resumptions = ⟨[w], some (.ok (), resumptions)⟩ := rfl
  rw [andThen_of_ended h]
  rfl

/-! ### Another ending -/

theorem mapEnding_run (p : Coroutine ι ω ε α) (f : Except (Raised ε) α → Except (Raised ε) β)
    (resumptions : List (Resumption ι ε)) :
    p.mapEnding f resumptions =
      ⟨(p resumptions).events, (p resumptions).ending.map fun (r, rest) => (f r, rest)⟩ :=
  rfl

/-- What follows raises or returns at once. -/
theorem andThen_eq_mapEnding (p : Coroutine ι ω ε α)
    (f : Except (Raised ε) α → Except (Raised ε) β) :
    (p.andThen fun r => ofExcept (f r)) = p.mapEnding f := by
  funext resumptions
  rcases h : p resumptions with ⟨events, _ | ⟨r, rest⟩⟩
  · rw [andThen_of_suspended h, mapEnding, h]
    rfl
  · rw [andThen_of_ended h, mapEnding, h]
    show Progress.mk (events ++ []) _ = _
    rw [List.append_nil]
    rfl

theorem andThen_mapEnding (p : Coroutine ι ω ε α) (f : Except (Raised ε) α → Except (Raised ε) β)
    (next : Except (Raised ε) β → Coroutine ι ω ε γ) :
    (p.mapEnding f).andThen next = p.andThen fun r => next (f r) := by
  rw [← andThen_eq_mapEnding, andThen_assoc]
  simp only [andThen_ofExcept]

theorem mapEnding_mapEnding (p : Coroutine ι ω ε α)
    (f : Except (Raised ε) α → Except (Raised ε) β)
    (g : Except (Raised ε) β → Except (Raised ε) γ) :
    (p.mapEnding f).mapEnding g = p.mapEnding fun r => g (f r) := by
  rw [← andThen_eq_mapEnding _ g, andThen_mapEnding, andThen_eq_mapEnding]

/-- What an `except Exception` that returns makes of an ending. -/
def recovered (f : ε → α) : Except (Raised ε) α → Except (Raised ε) α
  | .error (.exception e) => .ok (f e)
  | r => r

theorem bind_ofExcept_eq (p : Coroutine ι ω ε α) (f : α → Except (Raised ε) β) :
    (p.bind fun a => ofExcept (f a)) = p.mapEnding fun r => r.bind f := by
  rw [bind, ← andThen_eq_mapEnding]
  congr 1
  funext r
  cases r <;> rfl

theorem recover_eq (p : Coroutine ι ω ε α) (f : ε → α) :
    p.recover f = p.mapEnding (recovered f) := by
  rw [recover, tryCatch, ← andThen_eq_mapEnding]
  congr 1
  funext r
  rcases r with (_ | _ | _ | _) | _ <;> rfl

theorem waitFor_eq (p : Coroutine ι ω ε α) (timeoutError : ε) :
    p.waitFor timeoutError = p.mapEnding (Except.mapError (underTimer timeoutError)) := by
  rw [waitFor, tryCatch, ← andThen_eq_mapEnding]
  congr 1
  funext r
  cases r <;> rfl

end Coroutine

import Mathlib.Data.List.Perm.Subperm
import OpenLangGraph.Foundation.PyString
import OpenLangGraph.Foundation.Redis
import OpenLangGraph.Foundation.SlidingWindow
import OpenLangGraph.Foundation.Transition

/-!
# The rate limit enforcer

`_sliding_window_check` of `core/rate_limit_enforcer.py`: any number of concurrent calls on one key
of a Redis server.

## Two clocks that are one

A call reads the clock, and its timestamp goes into the set as a score, some time later. The script
is atomic, but it does not read the clock: when it runs, calls with later timestamps may have run,
and may have removed what is still in the window of this one.

## The other path

Without the script a call removes, counts and adds with a command for each, and other calls come
between them. The set of a key expires 60 s after its window, which is set with a fourth command.

## Scope

Redis is available and no command fails. Times are in milliseconds. Nothing but these calls writes
the key: `get_current_usage` and `reset_counter` are left out.

## Main definitions

* `RateLimitEnforcer.State`, `RateLimitEnforcer.Label`, `RateLimitEnforcer.step`
* `RateLimitEnforcer.WithinLimit`
* `RateLimitEnforcer.countsAll` — the condition on a step
* `RateLimitEnforcer.inOrder` — scripts in the order of their timestamps

## Main results

* `RateLimitEnforcer.within_limit` — the runs in which no interval has too many admitted calls
* `RateLimitEnforcer.within_limit_of_order` — scripts that run in order and without delay
-/

namespace OpenLangGraph

open Transition SlidingWindow PyString

namespace RateLimitEnforcer

/-! ### Calls -/

structure Setting where
  windowSeconds : ℕ
  limit : ℕ

/-- `window_seconds * 1000` -/
def Setting.windowMs (setting : Setting) : ℕ := setting.windowSeconds * 1000

/-- `expire_seconds`, in milliseconds. -/
def Setting.expireMs (setting : Setting) : ℕ := (setting.windowSeconds + 60) * 1000

/-- The next thing a call does. -/
inductive Stage
  /-- the script, or the removal of what is outside the window -/
  | started
  | counting
  /-- it has been counted; `seen` is the number of calls that had been admitted then -/
  | adding (count seen : ℕ)
  | expiring (count : ℕ)
  | answered (count : ℕ) (allowed : Bool)

/-- A call that has read the clock. -/
structure Call where
  nowMs : ℕ
  member : Str
  /-- the script is registered -/
  script : Bool
  stage : Stage

/-- `window_start_ms` -/
def Call.windowStartMs (setting : Setting) (call : Call) : ℤ := call.nowMs - setting.windowMs

/-- The member with its score. -/
def Call.entry (call : Call) : Str × ℕ := (call.member, call.nowMs)

abbrev Key := Option (Redis.Entry (Redis.SortedSet Str))

structure State where
  /-- what Redis keeps under the key -/
  key : Key
  clock : ℕ
  calls : List Call
  /-- the entries of the calls that have been admitted, from the last to the first -/
  admitted : List (Str × ℕ)

inductive Label
  /-- a call reads the clock and draws the end of its member, `uuid.uuid4().hex[:8]` -/
  | start (now : ℕ) (suffix : Str) (script : Bool)
  /-- the next command of a call is executed -/
  | command (i now : ℕ)

/-- `SLIDING_WINDOW_CHECK_SCRIPT` -/
def slidingWindowCheckScript (setting : Setting) (now : ℕ) (call : Call) (key : Key) :
    Key × ℕ × Bool :=
  let key := Redis.zremrangebyscore now (call.windowStartMs setting) key
  let count := Redis.zcard now key
  if count < setting.limit then
    (Redis.expire now setting.expireMs (some (Redis.zadd now call.member call.nowMs key)),
      count + 1, true)
  else (key, count, false)

/-- What a command of a call does: the key, the stage afterwards, and whether the call is admitted
by it. -/
structure Move where
  key : Key
  stage : Stage
  admits : Bool

namespace State

/-- The next command. -/
def move (setting : Setting) (s : State) (call : Call) (now : ℕ) : Option Move :=
  match call.stage with
  | .started =>
    if call.script then
      let result := slidingWindowCheckScript setting now call s.key
      some ⟨result.1, .answered result.2.1 result.2.2, result.2.2⟩
    else some ⟨Redis.zremrangebyscore now (call.windowStartMs setting) s.key, .counting, false⟩
  | .counting =>
    let count := Redis.zcard now s.key
    some ⟨s.key, if count < setting.limit then .adding count s.admitted.length
      else .answered count false, false⟩
  | .adding count _ =>
    some ⟨some (Redis.zadd now call.member call.nowMs s.key), .expiring count, true⟩
  | .expiring count =>
    some ⟨Redis.expire now setting.expireMs s.key, .answered (count + 1) true, false⟩
  | .answered _ _ => none

def start : State := ⟨none, 0, [], []⟩

end State

def step (setting : Setting) (s : State) : Label → Option State
  | .start now suffix script =>
    if s.clock ≤ now then
      some { s with
        clock := now
        calls := s.calls ++ [⟨now, decimalRepr now ++ ":".toList ++ suffix, script, .started⟩] }
    else none
  | .command i now => do
    let call ← s.calls[i]?
    let move ← s.move setting call now
    if s.clock ≤ now then
      some { key := move.key
             clock := now
             calls := s.calls.set i { call with stage := move.stage }
             admitted := if move.admits then call.entry :: s.admitted else s.admitted }
    else none

/-! ### What is asked of the calls -/

/-- **Within the limit**: no interval of the length of the window has more timestamps of admitted
calls than the limit. -/
def WithinLimit (setting : Setting) (s : State) : Prop :=
  Limited setting.limit setting.windowMs (s.admitted.map Prod.snd)

/-- The set has all admitted calls that are in the window of a call: none of them has been removed
by a call with a later timestamp, or has expired. -/
def State.isComplete (setting : Setting) (s : State) (call : Call) (now : ℕ) : Bool :=
  s.admitted.all fun entry =>
    entry.2 + setting.windowMs ≤ call.nowMs || entry ∈ Redis.members now s.key

/-- If there is room for a call when it is counted, the set is complete. When it is added, no other
call has been admitted since, and no admitted call has its timestamp and its member. -/
def State.counts (setting : Setting) (s : State) (call : Call) (now : ℕ) : Bool :=
  match call.stage with
  | .started => !call.script || !(slidingWindowCheckScript setting now call s.key).2.2 ||
      s.isComplete setting call now && call.entry ∉ s.admitted
  | .counting => setting.limit ≤ Redis.zcard now s.key || s.isComplete setting call now
  | .adding _ seen => s.admitted.length = seen && call.entry ∉ s.admitted
  | .expiring _ | .answered _ _ => true

/-- Every command counts all admitted calls that it should. -/
def countsAll (setting : Setting) (s : State) : Label → Bool
  | .start _ _ _ => true
  | .command i now => (s.calls[i]?).all fun call => s.counts setting call now

/-- The call has returned. -/
def Stage.isAnswered : Stage → Bool
  | .answered _ _ => true
  | .started | .counting | .adding _ _ | .expiring _ => false

/-- All calls use the script. It runs within the 60 s that a set is kept beyond its window, after no
call with a later timestamp, and no admitted call has the member of the call. -/
def inOrder (s : State) : Label → Bool
  | .start _ _ script => script
  | .command i now => (s.calls[i]?).all fun call =>
    now < call.nowMs + 60000 &&
      (s.calls.all fun c => !c.stage.isAnswered || c.nowMs ≤ call.nowMs) &&
      s.admitted.all fun entry => entry.1 ≠ call.member

/-! ### What is counted -/

variable {setting : Setting} {s s' t : State} {call : Call} {now i : ℕ} {labels : List Label}

/-- How many admitted calls are recent, for the timestamp of a call. -/
def State.recentCalls (setting : Setting) (s : State) (call : Call) : ℕ :=
  recent setting.windowMs call.nowMs (s.admitted.map Prod.snd)

theorem isComplete_iff : s.isComplete setting call now = true ↔ ∀ entry ∈ s.admitted,
    call.nowMs < entry.2 + setting.windowMs → entry ∈ Redis.members now s.key := by
  rw [State.isComplete, List.all_eq_true]
  refine forall₂_congr fun entry _ => ?_
  rw [Bool.or_eq_true, decide_eq_true_eq, decide_eq_true_eq, ← Nat.not_lt]
  exact or_iff_not_imp_left.trans (by rw [not_not])

/-- Entries that are all in a set are at most as many as its members. -/
theorem recentCalls_le (hnodup : s.admitted.Nodup) {members : Redis.SortedSet Str}
    (hsub : ∀ entry ∈ s.admitted, call.nowMs < entry.2 + setting.windowMs → entry ∈ members) :
    s.recentCalls setting call ≤ members.length := by
  have hfilter : s.recentCalls setting call =
      (s.admitted.filter fun entry => call.nowMs < entry.2 + setting.windowMs).length := by
    rw [State.recentCalls, recent, List.countP_map, List.countP_eq_length_filter]
    rfl
  rw [hfilter]
  refine (List.Nodup.subperm (hnodup.filter _) fun entry hentry => ?_).length_le
  obtain ⟨hmem, hrecent⟩ := List.mem_filter.mp hentry
  exact hsub entry hmem (of_decide_eq_true hrecent)

/-- **The count** of a call is at least the number of recent calls, if the set is complete. -/
theorem recentCalls_le_zcard (hnodup : s.admitted.Nodup)
    (hcomplete : s.isComplete setting call now = true) :
    s.recentCalls setting call ≤ Redis.zcard now s.key :=
  recentCalls_le hnodup (isComplete_iff.mp hcomplete)

/-- What is outside the window of the call does not count. -/
theorem recentCalls_le_zcard_zremrangebyscore (hnodup : s.admitted.Nodup)
    (hcomplete : s.isComplete setting call now = true) :
    s.recentCalls setting call ≤
      Redis.zcard now (Redis.zremrangebyscore now (call.windowStartMs setting) s.key) := by
  refine recentCalls_le hnodup fun entry hmem hrecent => ?_
  rw [Redis.members_zremrangebyscore, List.mem_filter, decide_eq_true_eq, Call.windowStartMs]
  exact ⟨isComplete_iff.mp hcomplete entry hmem hrecent, by omega⟩

/-! ### Runs -/

/-- The timestamps are within the limit, and a call that is about to be added has room, unless
another call has been admitted since it was counted. -/
structure Sound (setting : Setting) (s : State) : Prop where
  nodup : s.admitted.Nodup
  within : WithinLimit setting s
  seen : ∀ call ∈ s.calls, ∀ count seen, call.stage = .adding count seen →
    seen ≤ s.admitted.length ∧
      (seen = s.admitted.length → s.recentCalls setting call < setting.limit)

theorem sound_start (setting : Setting) : Sound setting State.start :=
  ⟨List.nodup_nil, limited_nil _ _, by simp [State.start]⟩

variable {key : Key} {calls : List Call}

/-- A step that admits nobody. -/
theorem Sound.rest (hsound : Sound setting s)
    (hcalls : ∀ call ∈ calls, call ∈ s.calls ∨ ∀ count seen, call.stage = .adding count seen →
      seen = s.admitted.length ∧ s.recentCalls setting call < setting.limit) :
    Sound setting ⟨key, now, calls, s.admitted⟩ := by
  refine ⟨hsound.nodup, hsound.within, fun call hcall count seen hstage => ?_⟩
  rcases hcalls call hcall with hold | hnew
  · exact hsound.seen call hold count seen hstage
  · obtain ⟨hseen, hroom⟩ := hnew count seen hstage
    exact ⟨hseen.le, fun _ => hroom⟩

/-- A step that admits a call for which there is room. -/
theorem Sound.admit (hsound : Sound setting s) (hroom : s.recentCalls setting call < setting.limit)
    (hfresh : call.entry ∉ s.admitted)
    (hcalls : ∀ call ∈ calls, call ∈ s.calls ∨ ∀ count seen, call.stage ≠ .adding count seen) :
    Sound setting ⟨key, now, calls, call.entry :: s.admitted⟩ := by
  refine ⟨List.nodup_cons.mpr ⟨hfresh, hsound.nodup⟩, hsound.within.cons hroom,
    fun call hcall count seen hstage => ?_⟩
  rcases hcalls call hcall with hold | hnew
  · have hle := (hsound.seen call hold count seen hstage).1
    refine ⟨Nat.le_succ_of_le hle, fun heq => ?_⟩
    rw [List.length_cons] at heq
    omega
  · exact absurd hstage (hnew count seen)

/-- The script admits a call exactly if there is room in the set. -/
theorem slidingWindowCheckScript_allowed (setting : Setting) (now : ℕ) (call : Call) (key : Key) :
    (slidingWindowCheckScript setting now call key).2.2 = true ↔
      Redis.zcard now (Redis.zremrangebyscore now (call.windowStartMs setting) key) <
        setting.limit := by
  rw [slidingWindowCheckScript]
  split
  · simp [*]
  · simp [*]

variable {move : Move}

/-- The other calls are as they were. -/
theorem mem_set_stage {stage : Stage} {P : Call → Prop} (hP : P { call with stage }) :
    ∀ c ∈ s.calls.set i { call with stage }, c ∈ s.calls ∨ P c := by
  intro c hc
  rcases List.mem_or_eq_of_mem_set hc with hold | rfl
  · exact .inl hold
  · exact .inr hP

theorem Sound.command (hsound : Sound setting s) (hi : s.calls[i]? = some call)
    (hmove : s.move setting call now = some move) (hall : s.counts setting call now = true) :
    Sound setting ⟨move.key, now, s.calls.set i { call with stage := move.stage },
      if move.admits then call.entry :: s.admitted else s.admitted⟩ := by
  rw [State.move] at hmove
  rw [State.counts] at hall
  cases hstage : call.stage with
  | started =>
    rw [hstage] at hmove hall
    by_cases hscript : call.script = true
    · have hmove : move = ⟨(slidingWindowCheckScript setting now call s.key).1,
          .answered (slidingWindowCheckScript setting now call s.key).2.1
            (slidingWindowCheckScript setting now call s.key).2.2,
          (slidingWindowCheckScript setting now call s.key).2.2⟩ := by
        dsimp only at hmove
        rw [if_pos hscript] at hmove
        exact (Option.some.inj hmove).symm
      rw [hmove]
      by_cases hadmits : (slidingWindowCheckScript setting now call s.key).2.2 = true
      · simp only [hscript, hadmits, Bool.not_true, Bool.false_or, Bool.and_eq_true,
          decide_eq_true_eq] at hall
        have hroom := (recentCalls_le_zcard_zremrangebyscore hsound.nodup hall.1).trans_lt
          ((slidingWindowCheckScript_allowed setting now call s.key).mp hadmits)
        dsimp only
        rw [if_pos hadmits]
        exact hsound.admit hroom hall.2 (mem_set_stage (by simp))
      · dsimp only
        rw [if_neg hadmits]
        exact hsound.rest (mem_set_stage (by simp))
    · dsimp only at hmove
      rw [if_neg hscript] at hmove
      obtain rfl := Option.some.inj hmove
      exact hsound.rest (mem_set_stage (by simp))
  | counting =>
    rw [hstage] at hmove hall
    obtain rfl := Option.some.inj hmove
    refine hsound.rest (mem_set_stage fun count seen hadding => ?_)
    dsimp only at hadding
    split at hadding
    · cases hadding
      rename_i hroom
      rw [Bool.or_eq_true, decide_eq_true_eq] at hall
      have hcomplete := hall.resolve_left (Nat.not_le.mpr hroom)
      exact ⟨rfl, (recentCalls_le_zcard hsound.nodup hcomplete).trans_lt hroom⟩
    · cases hadding
  | adding count seen =>
    rw [hstage] at hmove hall
    obtain rfl := Option.some.inj hmove
    rw [Bool.and_eq_true, decide_eq_true_eq, decide_eq_true_eq] at hall
    have hseen := hsound.seen call (List.mem_of_getElem? hi) count seen hstage
    exact hsound.admit (hseen.2 hall.1.symm) hall.2 (mem_set_stage (by simp))
  | expiring count =>
    rw [hstage] at hmove
    obtain rfl := Option.some.inj hmove
    exact hsound.rest (mem_set_stage (by simp))
  | answered count allowed =>
    rw [hstage] at hmove
    cases hmove

theorem Sound.step (hsound : Sound setting s) {label : Label}
    (hall : countsAll setting s label = true) (h : step setting s label = some s') :
    Sound setting s' := by
  cases label with
  | start now suffix script =>
    rw [RateLimitEnforcer.step] at h
    split at h
    · obtain rfl := Option.some.inj h
      refine hsound.rest fun call hcall => ?_
      rcases List.mem_append.mp hcall with hold | hnew
      · exact .inl hold
      · obtain rfl := List.mem_singleton.mp hnew
        exact .inr (by simp)
    · cases h
  | command i now =>
    simp only [RateLimitEnforcer.step, Option.bind_eq_bind, Option.bind_eq_some_iff] at h
    obtain ⟨call, hi, move, hmove, h⟩ := h
    rw [countsAll, hi, Option.all_some] at hall
    split at h
    · obtain rfl := Option.some.inj h
      exact hsound.command hi hmove hall
    · cases h

/-- **Within the limit**: in all runs whose steps meet `countsAll`, with any number of calls, with
the script or without it. -/
theorem within_limit (setting : Setting) (labels : List Label)
    (hall : Along (step setting) (fun s label => countsAll setting s label = true) State.start
      labels) (h : exec (step setting) State.start labels = some t) : WithinLimit setting t :=
  (exec_invariant (I := Sound setting) (fun _ _ _ hsound hall hstep => hsound.step hall hstep)
    (sound_start setting) hall h).within

/-- A limit of 1, and two calls a window apart: one with the script, one without it. -/
theorem within_limit_two : ∃ t, exec (step ⟨1, 1⟩) State.start
    [.start 0 "a".toList true, .command 0 0, .start 1000 "b".toList false, .command 1 1000,
      .command 1 1000, .command 1 1000, .command 1 1001] = some t ∧ WithinLimit ⟨1, 1⟩ t :=
  ⟨_, rfl, within_limit ⟨1, 1⟩ [.start 0 "a".toList true, .command 0 0,
    .start 1000 "b".toList false, .command 1 1000, .command 1 1000, .command 1 1000,
    .command 1 1001] (by decide) rfl⟩

/-- With the script, two calls are admitted at 0 ms. The script of a call that has read 1000 ms
removes both, and then that of a call that has read 999 ms finds room. Without the script, two calls
count before one of them adds. -/
theorem over_limit :
    (¬ ∀ (setting : Setting) (labels : List Label) (t : State), 0 < setting.windowSeconds →
        (∀ now suffix script, .start now suffix script ∈ labels → script = true) →
        exec (step setting) State.start labels = some t → WithinLimit setting t) ∧
      ¬ ∀ (setting : Setting) (labels : List Label) (t : State), 0 < setting.windowSeconds →
        (∀ now suffix script, .start now suffix script ∈ labels → script = false) →
        exec (step setting) State.start labels = some t → WithinLimit setting t := by
  constructor
  · intro h
    have hlimit := h ⟨1, 2⟩ [.start 0 "a".toList true, .command 0 0, .start 0 "b".toList true,
      .command 1 0, .start 999 "c".toList true, .start 1000 "d".toList true, .command 3 1000,
      .command 2 1000] _ (by decide) (by simp) rfl
    exact absurd (hlimit 0) (by decide)
  · intro h
    have hlimit := h ⟨1, 1⟩ [.start 0 "a".toList false, .start 0 "b".toList false, .command 0 0,
      .command 1 0, .command 0 0, .command 1 0, .command 0 0, .command 1 0] _ (by decide) (by simp)
      rfl
    exact absurd (hlimit 0) (by decide)

/-! ### Scripts in order -/

/-- A set that has the entry, for as long as some call may have it in its window. -/
def Keeps (setting : Setting) (key : Key) (entry : Str × ℕ) : Prop :=
  ∃ e, key = some e ∧ entry ∈ e.value ∧
    ∀ x ∈ e.expiresAt, entry.2 + setting.windowMs + 60000 ≤ x

/-- What holds if scripts run in order: an entry is in the set, or some call that has returned is
a window later. -/
structure Ordered (setting : Setting) (s : State) : Prop where
  scripts : ∀ call ∈ s.calls, call.script = true ∧
    (call.stage = .started ∨ call.stage.isAnswered = true)
  past : ∀ call ∈ s.calls, call.nowMs ≤ s.clock
  admittedPast : ∀ entry ∈ s.admitted, entry.2 ≤ s.clock
  kept : ∀ entry ∈ s.admitted, Keeps setting s.key entry ∨
    ∃ call ∈ s.calls, call.stage.isAnswered = true ∧ entry.2 + setting.windowMs ≤ call.nowMs

theorem inOrder_iff (hi : s.calls[i]? = some call) :
    inOrder s (.command i now) = true ↔ now < call.nowMs + 60000 ∧
      (∀ c ∈ s.calls, c.stage.isAnswered = true → c.nowMs ≤ call.nowMs) ∧
      ∀ entry ∈ s.admitted, entry.1 ≠ call.member := by
  rw [inOrder, hi, Option.all_some, Bool.and_eq_true, Bool.and_eq_true, decide_eq_true_eq,
    List.all_eq_true, List.all_eq_true, and_assoc]
  simp only [Bool.or_eq_true, Bool.not_eq_true', decide_eq_true_eq, ← Bool.not_eq_true,
    ← imp_iff_not_or]

/-- What is kept is live while a call may have it in its window. -/
theorem Keeps.live {key : Key} {entry : Str × ℕ} (h : Keeps setting key entry)
    (hprompt : now < call.nowMs + 60000) (hrecent : call.nowMs < entry.2 + setting.windowMs) :
    ∃ e, Redis.live now key = some e ∧ entry ∈ e.value ∧
      ∀ x ∈ e.expiresAt, entry.2 + setting.windowMs + 60000 ≤ x := by
  obtain ⟨e, rfl, hmem, hexpires⟩ := h
  refine ⟨e, Redis.live_of_forall fun x hx => ?_, hmem, hexpires⟩
  have hx := hexpires x hx
  omega

theorem Ordered.isComplete (hordered : Ordered setting s) (hi : s.calls[i]? = some call)
    (horder : inOrder s (.command i now) = true) : s.isComplete setting call now = true := by
  obtain ⟨hprompt, hlater, -⟩ := (inOrder_iff hi).mp horder
  refine isComplete_iff.mpr fun entry hentry hrecent => ?_
  rcases hordered.kept entry hentry with hkeeps | ⟨c, hc, hanswered, hover⟩
  · obtain ⟨e, hlive, hmem, -⟩ := hkeeps.live hprompt hrecent
    rw [Redis.members_of_live hlive]
    exact hmem
  · have hle := hlater c hc hanswered
    omega

theorem Ordered.countsAll {label : Label} (hordered : Ordered setting s)
    (horder : inOrder s label = true) : countsAll setting s label = true := by
  cases label with
  | start now suffix script => rfl
  | command i now =>
    rw [RateLimitEnforcer.countsAll, Option.all_eq_true]
    intro call hi
    obtain ⟨-, -, hfresh⟩ := (inOrder_iff hi).mp horder
    have hnew : call.entry ∉ s.admitted := fun hmem => hfresh _ hmem rfl
    rw [State.counts]
    obtain ⟨-, hstage | hanswered⟩ := hordered.scripts call (List.mem_of_getElem? hi)
    · rw [hstage]
      simp [hordered.isComplete hi horder, hnew]
    · cases hstage : call.stage with
      | answered count allowed => rfl
      | started | counting | adding | expiring => simp [hstage, Stage.isAnswered] at hanswered

/-- The script keeps what the window of its call has. -/
theorem keeps_slidingWindowCheckScript {key : Key} {entry : Str × ℕ} (hclock : entry.2 ≤ now)
    (h : Keeps setting key entry) (hprompt : now < call.nowMs + 60000)
    (hrecent : call.nowMs < entry.2 + setting.windowMs) (hne : entry.1 ≠ call.member) :
    Keeps setting (slidingWindowCheckScript setting now call key).1 entry := by
  obtain ⟨e, hlive, hmem, hexpires⟩ := h.live hprompt hrecent
  have hscore : call.windowStartMs setting < entry.2 := by
    rw [Call.windowStartMs]
    omega
  obtain ⟨kept, hkey, hkept⟩ := Redis.zremrangebyscore_of_mem hlive hmem hscore
  rw [slidingWindowCheckScript, hkey]
  split
  · have hexpires := Redis.lt_of_live hlive
    have hstill : Redis.live now (some ⟨kept, e.expiresAt⟩) = some ⟨kept, e.expiresAt⟩ :=
      Redis.live_of_forall hexpires
    rw [Redis.expire_zadd]
    refine ⟨_, rfl, Redis.mem_zadd_of_ne hstill hkept hne _, fun x hx => ?_⟩
    obtain rfl := Option.some.inj hx
    rw [Setting.expireMs, Setting.windowMs]
    omega
  · exact ⟨_, rfl, hkept, hexpires⟩

/-- A call that is admitted is in the set. -/
theorem keeps_entry {key : Key} (hclock : call.nowMs ≤ now)
    (hadmits : (slidingWindowCheckScript setting now call key).2.2 = true) :
    Keeps setting (slidingWindowCheckScript setting now call key).1 call.entry := by
  have hroom := (slidingWindowCheckScript_allowed setting now call key).mp hadmits
  rw [slidingWindowCheckScript, if_pos hroom, Redis.expire_zadd]
  refine ⟨_, rfl, Redis.mem_zadd_self _ _ _ _, fun x hx => ?_⟩
  obtain rfl := Option.some.inj hx
  rw [Setting.expireMs, Setting.windowMs, Call.entry]
  omega

theorem Ordered.command (hordered : Ordered setting s) (hi : s.calls[i]? = some call)
    (hmove : s.move setting call now = some move) (hclock : s.clock ≤ now)
    (horder : inOrder s (.command i now) = true) :
    Ordered setting ⟨move.key, now, s.calls.set i { call with stage := move.stage },
      if move.admits then call.entry :: s.admitted else s.admitted⟩ := by
  obtain ⟨hprompt, hlater, hfresh⟩ := (inOrder_iff hi).mp horder
  obtain ⟨hscript, hstage⟩ := hordered.scripts call (List.mem_of_getElem? hi)
  have hnow : call.nowMs ≤ now := (hordered.past call (List.mem_of_getElem? hi)).trans hclock
  rcases hstage with hstage | hanswered
  · have hmove : move = ⟨(slidingWindowCheckScript setting now call s.key).1,
        .answered (slidingWindowCheckScript setting now call s.key).2.1
          (slidingWindowCheckScript setting now call s.key).2.2,
        (slidingWindowCheckScript setting now call s.key).2.2⟩ := by
      rw [State.move, hstage] at hmove
      dsimp only at hmove
      rw [if_pos hscript] at hmove
      exact (Option.some.inj hmove).symm
    rw [hmove]
    have hself := List.getElem?_set_self (a := { call with
      stage := .answered (slidingWindowCheckScript setting now call s.key).2.1
        (slidingWindowCheckScript setting now call s.key).2.2 })
      (List.getElem?_eq_some_iff.mp hi).1
    have hentries : ∀ entry ∈ (if (slidingWindowCheckScript setting now call s.key).2.2 then
        call.entry :: s.admitted else s.admitted),
        entry ∈ s.admitted ∨
          entry = call.entry ∧ (slidingWindowCheckScript setting now call s.key).2.2 = true := by
      intro entry hentry
      split at hentry
      · rcases List.mem_cons.mp hentry with rfl | hold
        · exact .inr ⟨rfl, ‹_›⟩
        · exact .inl hold
      · exact .inl hentry
    refine ⟨fun c hc => ?_, fun c hc => ?_, fun entry hentry => ?_, fun entry hentry => ?_⟩
    · rcases List.mem_or_eq_of_mem_set hc with hold | rfl
      · exact hordered.scripts c hold
      · exact ⟨hscript, .inr rfl⟩
    · rcases List.mem_or_eq_of_mem_set hc with hold | rfl
      · exact (hordered.past c hold).trans hclock
      · exact hnow
    · rcases hentries entry hentry with hold | ⟨rfl, -⟩
      · exact (hordered.admittedPast entry hold).trans hclock
      · exact hnow
    · rcases hentries entry hentry with hold | ⟨rfl, hadmits⟩
      · rcases Nat.lt_or_ge call.nowMs (entry.2 + setting.windowMs) with hrecent | hover
        · refine .inl ?_
          rcases hordered.kept entry hold with hkeeps | ⟨c, hc, hc', hover⟩
          · exact keeps_slidingWindowCheckScript ((hordered.admittedPast entry hold).trans hclock)
              hkeeps hprompt hrecent (hfresh entry hold)
          · have hle := hlater c hc hc'
            omega
        · exact .inr ⟨_, List.mem_of_getElem? hself, rfl, hover⟩
      · exact .inl (keeps_entry hnow hadmits)
  · cases hstage : call.stage with
    | answered count allowed =>
      rw [State.move, hstage] at hmove
      cases hmove
    | started | counting | adding | expiring => simp [hstage, Stage.isAnswered] at hanswered

theorem ordered_step {label : Label} (hordered : Ordered setting s)
    (horder : inOrder s label = true) (h : step setting s label = some s') :
    Ordered setting s' := by
  cases label with
  | start now suffix script =>
    rw [RateLimitEnforcer.step] at h
    split at h
    · obtain rfl := Option.some.inj h
      rename_i hclock
      refine ⟨fun call hcall => ?_, fun call hcall => ?_,
        fun entry hentry => (hordered.admittedPast entry hentry).trans hclock,
        fun entry hentry => ?_⟩
      · rcases List.mem_append.mp hcall with hold | hnew
        · exact hordered.scripts call hold
        · obtain rfl := List.mem_singleton.mp hnew
          exact ⟨horder, .inl rfl⟩
      · rcases List.mem_append.mp hcall with hold | hnew
        · exact (hordered.past call hold).trans hclock
        · obtain rfl := List.mem_singleton.mp hnew
          exact Nat.le_refl now
      · rcases hordered.kept entry hentry with hkeeps | ⟨c, hc, hover⟩
        · exact .inl hkeeps
        · exact .inr ⟨c, List.mem_append_left _ hc, hover⟩
    · cases h
  | command i now =>
    simp only [RateLimitEnforcer.step, Option.bind_eq_bind, Option.bind_eq_some_iff] at h
    obtain ⟨call, hi, move, hmove, h⟩ := h
    split at h
    · obtain rfl := Option.some.inj h
      exact hordered.command hi hmove ‹_› horder
    · cases h

/-- **Scripts that run in order and without delay** are within the limit. -/
theorem within_limit_of_order (setting : Setting) (labels : List Label)
    (horder : Along (step setting) (fun s label => inOrder s label = true) State.start labels)
    (h : exec (step setting) State.start labels = some t) : WithinLimit setting t := by
  have hstart : Ordered setting State.start := by
    refine ⟨?_, ?_, ?_, ?_⟩ <;> simp [State.start]
  refine within_limit setting labels ?_ h
  exact along_of_invariant (I := Ordered setting)
    (fun _ _ _ hordered horder hstep => ordered_step hordered horder hstep)
    (fun _ _ hordered horder => hordered.countsAll horder) hstart horder

end RateLimitEnforcer

end OpenLangGraph

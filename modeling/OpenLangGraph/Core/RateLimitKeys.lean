import OpenLangGraph.Core.RateLimitCheck

/-!
# The keys of the counters

`_build_redis_key` of `core/rate_limit_enforcer.py` for every counter that the enforcer keeps, the
key of its burst window, and `reset_counter`.

## Logical counters

A counter is that of a rule in an organization, for the organization as a whole or for one user, API
key or endpoint, in the window of the rule or in its burst window. The ids of rules and of
organizations are UUIDs that the database makes, so they contain no colon; `ColonFree` carries this.
The other ids are any strings.

## What may go wrong

The key of a burst window is that of the window with `:burst` behind it, and an id may end so. An
empty id is left out of the key, which is then the one of the organization. And a reset deletes one
key, where a counter has two.

## Main definitions

* `LogicalCounter`, `LogicalCounter.key`
* `collides` — the condition on two counters
* `resetCounter`, `ResetsExactly`
* `resetsTarget` — the condition on a reset

## Main results

* `key_eq_iff` — the counters that share a key
* `keys_spec` — when two counters have different keys, and when a reset does what it should
-/

namespace OpenLangGraph

open PyString

namespace RateLimitEnforcer

/-! ### Counters -/

/-- The id of a rule or of an organization: a UUID, or any other text without colons. -/
structure ColonFree where
  text : Str
  noColon : ':' ∉ text
deriving DecidableEq

inductive TargetKind
  | user
  | apiKey
  | endpoint
deriving DecidableEq

/-- What is counted. The rules of the targets `global` and `org` count for the organization. -/
inductive Target
  | organization
  | of (kind : TargetKind) (id : Str)
deriving DecidableEq

/-- The argument of `_build_redis_key` for ids of this kind. -/
def Target.argument (target : Target) (kind : TargetKind) : Option Str :=
  match target with
  | .organization => none
  | .of kind' id => if kind' = kind then some id else none

inductive CounterWindow
  | main
  | burst
deriving DecidableEq

@[ext]
structure LogicalCounter where
  rule : ColonFree
  org : ColonFree
  target : Target
  window : CounterWindow
deriving DecidableEq

/-- The key of the window of a rule. -/
def mainKey (rule org : ColonFree) (target : Target) : Str :=
  buildRedisKey rule.text org.text (target.argument .endpoint) (target.argument .user)
    (target.argument .apiKey)

/-- The key under which Redis has the counter. -/
def LogicalCounter.key (c : LogicalCounter) : Str :=
  match c.window with
  | .main => mainKey c.rule c.org c.target
  | .burst => burstKey (mainKey c.rule c.org c.target)

/-- The target, if there is one and its id is not empty. -/
def Target.named : Target → Option (TargetKind × Str)
  | .organization => none
  | .of kind id => if id = [] then none else some (kind, id)

/-- Two counters of one rule and organization. Either both targets have no id and the windows are
the same, or both are of one kind, and the id of one is the id of the other, of which it is the
burst window, with `:burst` behind it. -/
def collides (a b : LogicalCounter) : Bool :=
  a ≠ b && a.rule = b.rule && a.org = b.org &&
    match a.target.named, b.target.named with
    | none, none => a.window = b.window
    | some (kind, id), some (kind', id') => kind = kind' &&
      match a.window, b.window with
      | .main, .burst => id = id' ++ ":burst".toList
      | .burst, .main => id' = id ++ ":burst".toList
      | .main, .main | .burst, .burst => false
    | none, some _ | some _, none => false

/-! ### The parts of a key -/

def TargetKind.letter : TargetKind → Char
  | .user => 'u'
  | .apiKey => 'k'
  | .endpoint => 'e'

/-- What follows the organization. -/
def Target.qualifier (target : Target) : Str :=
  match target.named with
  | none => []
  | some (kind, id) => ':' :: kind.letter :: ':' :: id

/-- What follows the target. -/
def CounterWindow.ending : CounterWindow → Str
  | .main => []
  | .burst => ":burst".toList

theorem truthy_some (id : Str) : truthy (some id) = if id = [] then none else some id := by
  rw [truthy, Option.filter_some]
  by_cases hid : id = []
  · simp [hid]
  · simp [hid]

theorem truthy_none : truthy none = none := rfl

/-- At most one argument is there. -/
theorem buildRedisKey_of (ruleId orgId : Str) (kind : TargetKind) (id : Str) :
    buildRedisKey ruleId orgId ((Target.of kind id).argument .endpoint)
        ((Target.of kind id).argument .user) ((Target.of kind id).argument .apiKey) =
      List.intercalate ":".toList (["rl_sw".toList, ruleId, orgId] ++
        ((truthy (some id)).map (kind.letter :: ':' :: ·)).toList) := by
  rw [truthy_some]
  cases kind with
  | user | apiKey | endpoint =>
    by_cases hid : id = []
    · simp [buildRedisKey, Target.argument, TargetKind.letter, truthy_some, hid, truthy_none]
    · simp [buildRedisKey, Target.argument, TargetKind.letter, truthy_some, hid, truthy_none]

theorem mainKey_eq (rule org : ColonFree) (target : Target) :
    mainKey rule org target =
      "rl_sw:".toList ++ (rule.text ++ ':' :: (org.text ++ target.qualifier)) := by
  cases target with
  | organization => simp [mainKey, buildRedisKey, Target.argument, truthy, Target.qualifier,
      Target.named, List.intercalate]
  | of kind id =>
    rw [mainKey, buildRedisKey_of, truthy_some, Target.qualifier, Target.named]
    by_cases hid : id = []
    · simp [hid, List.intercalate]
    · simp [hid, List.intercalate]

theorem key_eq (c : LogicalCounter) :
    c.key = "rl_sw:".toList ++
      (c.rule.text ++ ':' :: (c.org.text ++ (c.target.qualifier ++ c.window.ending))) := by
  cases hwindow : c.window with
  | main => simp [LogicalCounter.key, hwindow, mainKey_eq, CounterWindow.ending]
  | burst => simp [LogicalCounter.key, hwindow, mainKey_eq, CounterWindow.ending, burstKey]

/-! ### Counters that share a key -/

variable {a b : LogicalCounter} {kind kind' : TargetKind} {id id' : Str}

theorem ColonFree.ext {x y : ColonFree} (h : x.text = y.text) : x = y := by
  cases x
  cases y
  cases h
  rfl

/-- What follows the organization is empty, or starts with a colon. -/
theorem exists_colon (target : Target) (window : CounterWindow) :
    ∃ t, target.qualifier ++ window.ending ++ [':'] = ':' :: t := by
  rw [Target.qualifier]
  cases target.named with
  | none =>
    cases window with
    | main => exact ⟨[], rfl⟩
    | burst => exact ⟨_, rfl⟩
  | some named => exact ⟨_, rfl⟩

/-- The parts of a key can be read off. -/
theorem key_eq_key_iff : a.key = b.key ↔ a.rule = b.rule ∧ a.org = b.org ∧
    a.target.qualifier ++ a.window.ending = b.target.qualifier ++ b.window.ending := by
  rw [key_eq, key_eq]
  constructor
  · intro h
    obtain ⟨hrule, hrest⟩ :=
      append_cons_inj_left a.rule.noColon b.rule.noColon (List.append_cancel_left h)
    obtain ⟨t, ht⟩ := exists_colon a.target a.window
    obtain ⟨t', ht'⟩ := exists_colon b.target b.window
    have hcolon : a.org.text ++ ':' :: t = b.org.text ++ ':' :: t' := by
      rw [← ht, ← ht']
      simpa only [List.append_assoc] using congrArg (· ++ [':']) hrest
    have horg := (append_cons_inj_left a.org.noColon b.org.noColon hcolon).1
    rw [horg] at hrest
    exact ⟨ColonFree.ext hrule, ColonFree.ext horg, List.append_cancel_left hrest⟩
  · rintro ⟨hrule, horg, htail⟩
    rw [hrule, horg, htail]

theorem named_eq_some_iff {target : Target} :
    target.named = some (kind, id) ↔ target = .of kind id ∧ id ≠ [] := by
  cases target with
  | organization => simp [Target.named]
  | of kind' id' =>
    rw [Target.named]
    by_cases hid : id' = []
    · rw [if_pos hid]
      simp only [reduceCtorEq, Target.of.injEq, false_iff, not_and, not_not]
      rintro ⟨-, rfl⟩
      exact hid
    · rw [if_neg hid]
      simp only [Option.some.injEq, Prod.mk.injEq, Target.of.injEq]
      constructor
      · rintro ⟨rfl, rfl⟩
        exact ⟨⟨rfl, rfl⟩, hid⟩
      · rintro ⟨⟨rfl, rfl⟩, -⟩
        exact ⟨rfl, rfl⟩

theorem letter_injective (h : kind.letter = kind'.letter) : kind = kind' := by
  revert h
  cases kind <;> cases kind' <;> decide

/-- The burst ending is not the start of a target. -/
theorem letter_ne (kind : TargetKind) : kind.letter ≠ 'b' := by
  cases kind <;> decide

/-- The same id in the same window, or the id of the window of a rule is that of the burst window
with its ending. -/
theorem append_ending_iff (window window' : CounterWindow) :
    id ++ window.ending = id' ++ window'.ending ↔
      match window, window' with
      | .main, .burst => id = id' ++ ":burst".toList
      | .burst, .main => id' = id ++ ":burst".toList
      | .main, .main | .burst, .burst => id = id' := by
  cases window with
  | main =>
    cases window' with
    | main => simp [CounterWindow.ending]
    | burst => simp [CounterWindow.ending]
  | burst =>
    cases window' with
    | main => simp [CounterWindow.ending, eq_comm]
    | burst => simp [CounterWindow.ending]

/-- What follows the organization in two keys. -/
theorem tail_eq_iff (target target' : Target) (window window' : CounterWindow) :
    target.qualifier ++ window.ending = target'.qualifier ++ window'.ending ↔
      match target.named, target'.named with
      | none, none => window = window'
      | some (kind, id), some (kind', id') =>
        kind = kind' ∧ id ++ window.ending = id' ++ window'.ending
      | none, some _ | some _, none => False := by
  have hstart : ∀ (kind : TargetKind) (id t : Str) (window : CounterWindow),
      window.ending ≠ ':' :: kind.letter :: t := by
    intro kind id t window h
    cases window with
    | main => cases h
    | burst => exact letter_ne kind (List.cons.inj (List.cons.inj h).2).1.symm
  rw [Target.qualifier, Target.qualifier]
  cases target.named with
  | none =>
    cases target'.named with
    | none => cases window <;> cases window' <;> decide
    | some named => simpa using hstart named.1 named.2 _ window
  | some named =>
    cases target'.named with
    | none => simpa using fun h => hstart named.1 named.2 _ window' h.symm
    | some named' =>
      simp only [List.cons_append, List.cons.injEq, true_and]
      exact and_congr_left fun _ => ⟨letter_injective, congrArg TargetKind.letter⟩

/-- **The counters that share a key.** -/
theorem key_eq_iff (a b : LogicalCounter) : a.key = b.key ↔ a = b ∨ collides a b = true := by
  by_cases hab : a = b
  · exact iff_of_true (congrArg LogicalCounter.key hab) (.inl hab)
  · rw [key_eq_key_iff, tail_eq_iff, collides, or_iff_right hab]
    simp only [ne_eq, hab, not_false_eq_true, decide_true, Bool.true_and, Bool.and_eq_true,
      decide_eq_true_eq, and_assoc]
    refine and_congr_right fun hrule => and_congr_right fun horg => ?_
    cases ha : a.target.named with
    | none =>
      cases hb : b.target.named with
      | none => simp
      | some named => simp
    | some named =>
      cases hb : b.target.named with
      | none => simp
      | some named' =>
        obtain ⟨kind, id⟩ := named
        obtain ⟨kind', id'⟩ := named'
        -- two counters of one id differ in their windows
        have hsame : a.window = b.window → kind = kind' → id ≠ id' := by
          rintro hwindow rfl rfl
          have htarget : a.target = b.target :=
            (named_eq_some_iff.mp ha).1.trans (named_eq_some_iff.mp hb).1.symm
          exact hab (LogicalCounter.ext hrule horg htarget hwindow)
        dsimp only
        rw [append_ending_iff]
        simp only [Bool.and_eq_true, decide_eq_true_eq]
        refine and_congr_right fun hkind => ?_
        cases hwa : a.window with
        | main =>
          cases hwb : b.window with
          | main => exact iff_of_false (hsame (hwa.trans hwb.symm) hkind) Bool.false_ne_true
          | burst => exact decide_eq_true_iff.symm
        | burst =>
          cases hwb : b.window with
          | main => exact decide_eq_true_iff.symm
          | burst => exact iff_of_false (hsame (hwa.trans hwb.symm) hkind) Bool.false_ne_true

/-! ### Resets -/

/-- How the deletion of a key meets Redis. -/
inductive Deletion
  | unavailable
  /-- the command raises, and may have been executed -/
  | raised (durable : Bool)
  | done

/-- The key is gone afterwards. -/
def Deletion.deletes : Deletion → Bool
  | .unavailable => false
  | .raised durable => durable
  | .done => true

variable {α : Type*}

/-- `cache_manager.delete`: what it returns, and what Redis has afterwards. -/
def cacheDelete (deletion : Deletion) (db : Redis.Db Str α) (key : Str) : Bool × Redis.Db Str α :=
  match deletion with
  | .unavailable => (false, db)
  | .raised durable => (false, if durable then PyDict.delete db key else db)
  | .done => (true, PyDict.delete db key)

/-- `reset_counter` -/
def resetCounter (deletion : Deletion) (db : Redis.Db Str α) (orgId ruleId : Str)
    (endpoint userId apiKeyId : Option Str) : Bool × Redis.Db Str α :=
  cacheDelete deletion db (buildRedisKey ruleId orgId endpoint userId apiKeyId)

/-- A reset for a rule and a target. -/
def resetTarget (deletion : Deletion) (db : Redis.Db Str α) (rule org : ColonFree)
    (target : Target) : Redis.Db Str α :=
  (resetCounter deletion db org.text rule.text (target.argument .endpoint) (target.argument .user)
    (target.argument .apiKey)).2

/-- **What a reset should do**: the counters of the target are gone, and those of no other. -/
def ResetsExactly (deletion : Deletion) (db : Redis.Db Str α) (rule org : ColonFree)
    (target : Target) : Prop :=
  ∀ c : LogicalCounter, Redis.find (resetTarget deletion db rule org target) c.key =
    if c.rule = rule ∧ c.org = org ∧ c.target = target then none else Redis.find db c.key

/-- Another counter has the key of this target: its id is empty or it has none, or its id is another
one with `:burst` behind it. -/
def Target.isShared (target : Target) : Bool :=
  match target.named with
  | none => true
  | some (_, id) => endsWith id ":burst".toList && id ≠ ":burst".toList

/-- There is no burst counter, and the main counter is deleted and not shared, unless there is
none. -/
def resetsTarget (deletion : Deletion) (db : Redis.Db Str α) (rule org : ColonFree)
    (target : Target) : Bool :=
  (Redis.find db (burstKey (mainKey rule org target))).isNone &&
    ((Redis.find db (mainKey rule org target)).isNone || deletion.deletes && !target.isShared)

variable {deletion : Deletion} {db : Redis.Db Str α} {rule org : ColonFree} {target : Target}

theorem find_resetTarget (deletion : Deletion) (db : Redis.Db Str α) (rule org : ColonFree)
    (target : Target) (key : Str) :
    Redis.find (resetTarget deletion db rule org target) key =
      if key = mainKey rule org target ∧ deletion.deletes = true then none
      else Redis.find db key := by
  show Redis.find (cacheDelete deletion db (mainKey rule org target)).2 key = _
  cases deletion with
  | unavailable => simp [cacheDelete, Deletion.deletes]
  | raised durable =>
    cases durable with
    | false => simp [cacheDelete, Deletion.deletes]
    | true => simp [cacheDelete, Deletion.deletes, Redis.find_delete]
  | done => simp [cacheDelete, Deletion.deletes, Redis.find_delete]

/-- The main counter of a target. -/
def Target.main (target : Target) (rule org : ColonFree) : LogicalCounter :=
  ⟨rule, org, target, .main⟩

/-- The burst counter of a target. -/
def Target.burst (target : Target) (rule org : ColonFree) : LogicalCounter :=
  ⟨rule, org, target, .burst⟩

/-- Without an id the key is that of the organization, and of a user without an id. -/
theorem exists_shared_of_named_eq_none (rule org : ColonFree) (h : target.named = none) :
    ∃ c : LogicalCounter, c.key = mainKey rule org target ∧ c.target ≠ target := by
  have hkey : ∀ other : Target, other.named = none →
      (other.main rule org).key = mainKey rule org target := by
    intro other hother
    refine (key_eq_iff (other.main rule org) (target.main rule org)).mpr ?_
    by_cases hsame : other = target
    · exact .inl (congrArg (Target.main · rule org) hsame)
    · exact .inr (by simp [collides, hsame, Target.main, hother, h])
  cases target with
  | organization => exact ⟨(Target.of .user []).main rule org, hkey _ rfl, by simp [Target.main]⟩
  | of kind id => exact ⟨Target.organization.main rule org, hkey _ rfl, by simp [Target.main]⟩

/-- An id that ends like a burst window. -/
theorem exists_shared_of_endsWith (rule org : ColonFree) (h : target.named = some (kind, id))
    (hends : endsWith id ":burst".toList = true) (hne : id ≠ ":burst".toList) :
    ∃ c : LogicalCounter, c.key = mainKey rule org target ∧ c.target ≠ target := by
  obtain ⟨stem, hstem⟩ := endsWith_iff.mp hends
  have hpos : stem ≠ [] := by
    rintro rfl
    exact hne hstem.symm
  refine ⟨(Target.of kind stem).burst rule org, ?_, fun hsame => ?_⟩
  · refine (key_eq_iff _ (target.main rule org)).mpr (.inr ?_)
    have hnamed : (Target.of kind stem).named = some (kind, stem) :=
      named_eq_some_iff.mpr ⟨rfl, hpos⟩
    simp [collides, Target.burst, Target.main, hnamed, h, ← hstem]
  · have hid := (named_eq_some_iff.mp h).1.symm.trans hsame.symm
    have hlength := congrArg List.length (Target.of.inj hid).2
    rw [← hstem, List.length_append] at hlength
    simp at hlength

/-- Another counter under the main key of a target with an id is the burst counter of a part of
it. -/
theorem endsWith_of_key_eq {c : LogicalCounter} (hnamed : target.named = some (kind, id))
    (hkey : c.key = mainKey rule org target)
    (hother : ¬ (c.rule = rule ∧ c.org = org ∧ c.target = target)) :
    endsWith id ":burst".toList = true ∧ id ≠ ":burst".toList := by
  have hshare := (key_eq_iff c (target.main rule org)).mp hkey
  rcases hshare with rfl | hcollides
  · exact absurd ⟨rfl, rfl, rfl⟩ hother
  · rw [collides] at hcollides
    simp only [Target.main, hnamed, Bool.and_eq_true] at hcollides
    obtain ⟨-, hwindow⟩ := hcollides
    cases hcounter : c.target.named with
    | none => simp [hcounter] at hwindow
    | some named' =>
      rw [hcounter] at hwindow
      obtain ⟨kind', id'⟩ := named'
      have hid' : id' ≠ [] := (named_eq_some_iff.mp hcounter).2
      cases hw : c.window with
      | main => simp [hw] at hwindow
      | burst =>
        simp only [hw, Bool.and_eq_true, decide_eq_true_eq] at hwindow
        rw [hwindow.2]
        refine ⟨endsWith_iff.mpr ⟨id', rfl⟩, fun h => hid' ?_⟩
        simpa using h

/-- **The targets whose main counter is shared.** -/
theorem isShared_iff (rule org : ColonFree) (target : Target) :
    target.isShared = true ↔ ∃ c : LogicalCounter, c.key = mainKey rule org target ∧
      ¬ (c.rule = rule ∧ c.org = org ∧ c.target = target) := by
  rw [Target.isShared]
  cases hnamed : target.named with
  | none =>
    obtain ⟨c, hkey, hother⟩ := exists_shared_of_named_eq_none rule org hnamed
    simp only [true_iff]
    exact ⟨c, hkey, fun h => hother h.2.2⟩
  | some named =>
    obtain ⟨kind, id⟩ := named
    simp only [Bool.and_eq_true, decide_eq_true_eq]
    constructor
    · rintro ⟨hends, hne⟩
      obtain ⟨c, hkey, hother⟩ := exists_shared_of_endsWith rule org hnamed hends hne
      exact ⟨c, hkey, fun h => hother h.2.2⟩
    · rintro ⟨c, hkey, hother⟩
      exact endsWith_of_key_eq hnamed hkey hother

/-- A reset does not touch a burst counter. -/
theorem ResetsExactly.burst_eq_none (h : ResetsExactly deletion db rule org target) :
    Redis.find db (burstKey (mainKey rule org target)) = none := by
  have hburst := (h (target.burst rule org)).trans (if_pos ⟨rfl, rfl, rfl⟩)
  have hne : (target.burst rule org).key ≠ mainKey rule org target := burstKey_ne _
  rw [find_resetTarget, if_neg fun hkey => hne hkey.1] at hburst
  exact hburst

/-- A main counter has to be deleted, and then it must be that of no other target. -/
theorem ResetsExactly.main (h : ResetsExactly deletion db rule org target) :
    Redis.find db (mainKey rule org target) = none ∨
      deletion.deletes = true ∧ ¬ target.isShared = true := by
  refine or_iff_not_imp_left.mpr fun hpresent => ?_
  have hmain := (h (target.main rule org)).trans (if_pos ⟨rfl, rfl, rfl⟩)
  rw [find_resetTarget] at hmain
  have hdeletes : deletion.deletes = true := by
    by_contra hkept
    rw [if_neg fun hkey => hkept hkey.2] at hmain
    exact hpresent hmain
  refine ⟨hdeletes, ?_⟩
  rw [isShared_iff rule org target]
  rintro ⟨c, hkey, hother⟩
  have hc := h c
  rw [find_resetTarget, if_pos ⟨hkey, hdeletes⟩, if_neg hother, hkey] at hc
  exact hpresent hc.symm

/-- What a reset leaves under the key of a counter of the target. -/
theorem find_resetTarget_of_target
    (hburst : Redis.find db (burstKey (mainKey rule org target)) = none)
    (hmain : Redis.find db (mainKey rule org target) = none ∨ deletion.deletes = true)
    (window : CounterWindow) :
    Redis.find (resetTarget deletion db rule org target)
      (LogicalCounter.key ⟨rule, org, target, window⟩) = none := by
  rw [find_resetTarget]
  split
  · rfl
  · rename_i hkept
    cases window with
    | main => exact hmain.resolve_right fun hdeletes => hkept ⟨rfl, hdeletes⟩
    | burst => exact hburst

theorem resetsExactly_iff (deletion : Deletion) (db : Redis.Db Str α) (rule org : ColonFree)
    (target : Target) :
    ResetsExactly deletion db rule org target ↔
      resetsTarget deletion db rule org target = true := by
  rw [resetsTarget, Bool.and_eq_true, Bool.or_eq_true, Bool.and_eq_true, Bool.not_eq_true',
    Option.isNone_iff_eq_none, Option.isNone_iff_eq_none, ← Bool.not_eq_true]
  constructor
  · intro h
    exact ⟨h.burst_eq_none, h.main⟩
  · rintro ⟨hburst, hmain⟩ ⟨rule', org', target', window⟩
    by_cases hc : rule' = rule ∧ org' = org ∧ target' = target
    · rw [if_pos hc]
      obtain ⟨rfl, rfl, rfl⟩ := hc
      exact find_resetTarget_of_target hburst (hmain.imp_right And.left) window
    · rw [if_neg hc, find_resetTarget]
      split
      · rename_i hkey
        rcases hmain with habsent | ⟨-, hshared⟩
        · rw [hkey.1, habsent]
        · exact absurd ((isShared_iff rule org target).mpr ⟨_, hkey.1, hc⟩) hshared
      · rfl

/-- **Counters and resets.** Two different counters have different keys unless they collide. A reset
removes the counters of its target and no other exactly if the condition holds. -/
theorem keys_spec (a b : LogicalCounter) (deletion : Deletion) (db : Redis.Db Str α)
    (rule org : ColonFree) (target : Target) :
    ((a ≠ b → a.key ≠ b.key) ↔ collides a b = false) ∧
      (ResetsExactly deletion db rule org target ↔
        resetsTarget deletion db rule org target = true) := by
  refine ⟨?_, resetsExactly_iff deletion db rule org target⟩
  rw [← Bool.not_eq_true]
  constructor
  · intro h hcollides
    have hne : a ≠ b := by
      rintro rfl
      simp [collides] at hcollides
    exact h hne ((key_eq_iff a b).mpr (.inr hcollides))
  · intro h hne hkey
    exact h (((key_eq_iff a b).mp hkey).resolve_left hne)

def exampleRule : ColonFree := ⟨"r".toList, by decide⟩

def exampleOrg : ColonFree := ⟨"o".toList, by decide⟩

/-- The window of the user `a:burst` has the key of the burst window of the user `a`, and a reset
for the user `a` leaves the burst counter. -/
theorem burst_survives :
    ((Target.of .user "a:burst".toList).main exampleRule exampleOrg).key =
        ((Target.of .user "a".toList).burst exampleRule exampleOrg).key ∧
      ¬ ResetsExactly .done
        [("rl_sw:r:o:u:a".toList, ⟨1, none⟩), ("rl_sw:r:o:u:a:burst".toList, ⟨2, none⟩)]
        exampleRule exampleOrg (.of .user "a".toList) := by
  refine ⟨rfl, fun h => ?_⟩
  have hburst := (h ((Target.of .user "a".toList).burst exampleRule exampleOrg)).trans
    (if_pos ⟨rfl, rfl, rfl⟩)
  have hthere : Redis.find (resetTarget .done
      [("rl_sw:r:o:u:a".toList, ⟨1, none⟩), ("rl_sw:r:o:u:a:burst".toList, ⟨2, none⟩)]
      exampleRule exampleOrg (.of .user "a".toList))
      ((Target.of .user "a".toList).burst exampleRule exampleOrg).key = some ⟨2, none⟩ := rfl
  cases hthere.symm.trans hburst

end RateLimitEnforcer

end OpenLangGraph

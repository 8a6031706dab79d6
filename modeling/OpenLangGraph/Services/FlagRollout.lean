import OpenLangGraph.Services.FlagEvaluation

/-!
# Rollouts by hash

A rollout takes in a context if the hash of its user or organization is below the percentage. The
hash has neither the percentage in it nor anything that changes, so a context that is taken in
stays in, and a higher percentage takes in more. The percentages 0 and 100 are decided before the
hash, and so is a user that is missing, in the same direction.

MD5 is any function here.

## Main definitions

* `Widens` — a rollout with a percentage that is not lower

## Main results

* `checkRollout_mono`, `checkRollout_drawn`
* `enabled_evaluate_mono` — evaluations
* `rollout_sticky_monotone`
-/

namespace OpenLangGraph

namespace FlagEvaluation

open FeatureFlagService PyString

variable {ν : Type}

/-- Both rollouts hash, and the same, and the percentage of the second is not lower. -/
structure Widens (p q : PercentageRolloutConfig) : Prop where
  hashes : p.strategy ≠ .random
  strategy : q.strategy = p.strategy
  seed : q.seed = p.seed
  percentage : p.percentage ≤ q.percentage

section

variable {setting : Setting ν} {p q : PercentageRolloutConfig}

theorem inBucket_mono (h : Widens p q) {flagKey id : Str}
    (hp : inBucket setting p flagKey id = true) : inBucket setting q flagKey id = true := by
  rw [inBucket, decide_eq_true_eq] at hp ⊢
  rw [h.seed]
  exact hp.trans_le h.percentage

/-- Nothing is drawn for a rollout that hashes. -/
theorem checkRollout_drawn (hp : p.strategy ≠ .random) (userId : Option Str)
    (orgId flagKey : Str) (drawn drawn' : Bool) :
    checkRollout setting p userId orgId flagKey drawn =
      checkRollout setting p userId orgId flagKey drawn' := by
  rw [checkRollout, checkRollout]
  split
  · rfl
  · split
    · rfl
    · cases hstrategy : p.strategy with
      | random => exact absurd hstrategy hp
      | userHash => rfl
      | orgHash => rfl

/-- **A higher percentage** takes in more. -/
theorem checkRollout_mono (h : Widens p q) {userId : Option Str} {orgId flagKey : Str}
    {drawn : Bool} (drawn' : Bool)
    (hp : checkRollout setting p userId orgId flagKey drawn = true) :
    checkRollout setting q userId orgId flagKey drawn' = true := by
  have hpq := h.percentage
  rw [checkRollout] at hp ⊢
  split
  · rfl
  · next hq =>
    rw [if_neg fun hfull => hq (hfull.trans hpq)] at hp
    split at hp
    · cases hp
    · next hzero =>
      rw [if_neg fun hnone => hzero (hpq.trans hnone), h.strategy]
      cases hstrategy : p.strategy with
      | random => exact absurd hstrategy h.hashes
      | userHash =>
        rw [hstrategy] at hp
        cases huser : truthy userId with
        | none =>
          rw [huser] at hp
          cases hp
        | some id =>
          rw [huser] at hp
          exact inBucket_mono h hp
      | orgHash =>
        rw [hstrategy] at hp
        exact inBucket_mono h hp

/-! ### Evaluations -/

variable {t : FlagTables ν} {orgId : Str} {context : FlagEvaluationContext} {now : ℕ}
  {drawn : Bool} {flag : FeatureFlag ν}

/-- An enabled flag is in, unless its rollout is enabled and keeps the context out. -/
theorem enabled_evaluateFlag (henabled : flag.enabled = true) :
    (evaluateFlag setting orgId context now drawn flag).enabled =
      (!flag.rollout.enabled || checkRollout setting flag.rollout context.userId
        ((truthy context.orgId).getD orgId) flag.key drawn) := by
  rw [evaluateFlag, henabled]
  have hfull : 100 ≤ flag.rollout.percentage → checkRollout setting flag.rollout context.userId
      ((truthy context.orgId).getD orgId) flag.key drawn = true := by
    intro hle
    rw [checkRollout, if_pos hle]
  by_cases hlt : flag.rollout.percentage < 100
  · cases flag.rollout.enabled <;> cases checkRollout setting flag.rollout context.userId
      ((truthy context.orgId).getD orgId) flag.key drawn <;> simp [hlt, flagResult]
  · simp [hlt, hfull (not_lt.mp hlt), flagResult]

/-- A rollout with a percentage of 100 keeps nobody out. -/
theorem enabled_evaluateFlag_hundred (flag : FeatureFlag ν) (henabled : flag.enabled = true)
    (hfull : flag.rollout.percentage = 100) :
    (evaluateFlag setting orgId context now drawn flag).enabled = true := by
  rw [enabled_evaluateFlag henabled, checkRollout, if_pos hfull.ge, Bool.or_true]

/-- An evaluation, once the override of the user has been looked up. -/
def afterUser (setting : Setting ν) (t : FlagTables ν) (orgId : Str)
    (context : FlagEvaluationContext) (now : ℕ) (drawn : Bool) (flag : FeatureFlag ν) :
    Option (FeatureFlagOverride ν) → Except FlagError (FlagEvaluationResult ν × Bool)
  | some o => .ok (overrideResult flag now "User" o, true)
  | none => do
    match ← getActiveOverride t flag.flagId orgId .org none now with
    | some o => .ok (overrideResult flag now "Org" o, true)
    | none => .ok (evaluateFlag setting orgId context now drawn flag, true)

theorem evaluate_eq_afterUser (hactive : flag.status = .active)
    (hexpired : ¬ flag.expiresAt.any (· < now) = true) :
    evaluate setting t orgId context now drawn flag =
      match truthy context.userId with
      | some userId => getActiveOverride t flag.flagId orgId .user (some userId) now >>=
          afterUser setting t orgId context now drawn flag
      | none => afterUser setting t orgId context now drawn flag none := by
  rw [evaluate, if_neg (not_not.mpr hactive), if_neg hexpired]
  cases truthy context.userId <;> rfl

theorem enabled_afterUser {drawn' : Bool}
    (hflag : (evaluateFlag setting orgId context now drawn { flag with rollout := p }).enabled =
      true → (evaluateFlag setting orgId context now drawn' { flag with rollout := q }).enabled =
        true)
    {userOverride : Option (FeatureFlagOverride ν)} {answer : FlagEvaluationResult ν × Bool}
    (h : afterUser setting t orgId context now drawn { flag with rollout := p } userOverride =
      .ok answer) (hin : answer.1.enabled = true) :
    ∃ answer', afterUser setting t orgId context now drawn' { flag with rollout := q }
      userOverride = .ok answer' ∧ answer'.1.enabled = true := by
  cases userOverride with
  | some o => exact ⟨_, rfl, rfl⟩
  | none =>
    rw [afterUser] at h ⊢
    dsimp only at h ⊢
    cases hlookup : getActiveOverride t flag.flagId orgId .org none now with
    | error e =>
      rw [hlookup] at h
      cases h
    | ok orgOverride =>
      rw [hlookup] at h
      cases orgOverride with
      | some o => exact ⟨_, rfl, rfl⟩
      | none =>
        cases h
        exact ⟨_, rfl, hflag hin⟩

/-- Overrides are asked before the rollout: an evaluation with another rollout includes the context
if the flag without overrides does. -/
theorem enabled_evaluate_of_evaluateFlag {drawn' : Bool}
    (hflag : (evaluateFlag setting orgId context now drawn { flag with rollout := p }).enabled =
      true → (evaluateFlag setting orgId context now drawn' { flag with rollout := q }).enabled =
        true)
    {answer : FlagEvaluationResult ν × Bool}
    (h : evaluate setting t orgId context now drawn { flag with rollout := p } = .ok answer)
    (hin : answer.1.enabled = true) :
    ∃ answer', evaluate setting t orgId context now drawn' { flag with rollout := q } =
      .ok answer' ∧ answer'.1.enabled = true := by
  by_cases hactive : flag.status = .active
  · by_cases hexpired : flag.expiresAt.any (· < now) = true
    · rw [evaluate, if_neg (not_not.mpr hactive), if_pos hexpired] at h
      cases h
      cases hin
    · have hp : ({ flag with rollout := p } : FeatureFlag ν).status = .active := hactive
      have hq : ({ flag with rollout := q } : FeatureFlag ν).status = .active := hactive
      rw [evaluate_eq_afterUser hp hexpired] at h
      rw [evaluate_eq_afterUser hq hexpired]
      cases huser : truthy context.userId with
      | none =>
        rw [huser] at h
        exact enabled_afterUser hflag h hin
      | some userId =>
        rw [huser] at h
        dsimp only at h ⊢
        cases hlookup : getActiveOverride t flag.flagId orgId .user (some userId) now with
        | error e =>
          rw [hlookup] at h
          cases h
        | ok userOverride =>
          rw [hlookup] at h
          exact enabled_afterUser hflag h hin
  · rw [evaluate, if_pos hactive] at h
    cases h
    cases hin

/-- An evaluation with a higher percentage includes the context again. -/
theorem enabled_evaluate_mono (h : Widens p q) (hq : q.enabled = p.enabled) (drawn' : Bool)
    {answer : FlagEvaluationResult ν × Bool} (henabled : flag.enabled = true)
    (hanswer : evaluate setting t orgId context now drawn { flag with rollout := p } = .ok answer)
    (hin : answer.1.enabled = true) :
    ∃ answer', evaluate setting t orgId context now drawn' { flag with rollout := q } =
      .ok answer' ∧ answer'.1.enabled = true := by
  have hbefore : ({ flag with rollout := p } : FeatureFlag ν).enabled = true := henabled
  have hafter : ({ flag with rollout := q } : FeatureFlag ν).enabled = true := henabled
  refine enabled_evaluate_of_evaluateFlag (fun hp => ?_) hanswer hin
  rw [enabled_evaluateFlag hbefore, Bool.or_eq_true] at hp
  rw [enabled_evaluateFlag hafter, Bool.or_eq_true]
  rcases hp with hdisabled | hp
  · exact .inl (hq ▸ hdisabled)
  · exact .inr (checkRollout_mono h drawn' hp)

end

/-- **Rollouts by hash are sticky and monotone.** What is taken in at a percentage is taken in at a
higher one; the answer does not depend on anything that is drawn; and an evaluation of an enabled
flag with a percentage of 100 includes every context that one with another rollout includes. -/
theorem rollout_sticky_monotone (setting : Setting ν) {p q : PercentageRolloutConfig}
    (h : Widens p q) :
    (∀ userId orgId flagKey drawn drawn',
      checkRollout setting p userId orgId flagKey drawn = true →
        checkRollout setting q userId orgId flagKey drawn' = true) ∧
    (∀ userId orgId flagKey drawn drawn',
      checkRollout setting p userId orgId flagKey drawn =
        checkRollout setting p userId orgId flagKey drawn') ∧
    ∀ (full : PercentageRolloutConfig) (t : FlagTables ν) orgId context now drawn drawn'
      (flag : FeatureFlag ν) answer, full.percentage = 100 → flag.enabled = true →
      evaluate setting t orgId context now drawn { flag with rollout := p } = .ok answer →
      answer.1.enabled = true → ∃ answer',
        evaluate setting t orgId context now drawn' { flag with rollout := full } = .ok answer' ∧
          answer'.1.enabled = true := by
  refine ⟨fun userId orgId flagKey drawn drawn' hp => checkRollout_mono h drawn' hp,
    fun userId orgId flagKey drawn drawn' =>
      checkRollout_drawn h.hashes userId orgId flagKey drawn drawn', ?_⟩
  intro full t orgId context now drawn drawn' flag answer hfull henabled hanswer hin
  exact enabled_evaluate_of_evaluateFlag
    (fun _ => enabled_evaluateFlag_hundred { flag with rollout := full } henabled hfull) hanswer hin

/-! ### From 20 to 80 percent -/

/-- A rollout by user. -/
def rolloutOf (percentage : ℚ) (hnonneg : 0 ≤ percentage) (hle : percentage ≤ 100) :
    PercentageRolloutConfig := ⟨true, percentage, .userHash, none, hnonneg, hle⟩

/-- A user with the hash 0 stays in. -/
theorem rollout_sticky_monotone_alice :
    checkRollout (withoutRollout false) (rolloutOf 80 (by decide) (by decide))
      (some "alice".toList) "o".toList "dark".toList false = true := by
  have hwidens : Widens (rolloutOf 20 (by decide) (by decide))
      (rolloutOf 80 (by decide) (by decide)) := ⟨by decide, rfl, rfl, by decide⟩
  exact (rollout_sticky_monotone (withoutRollout false) hwidens).1 _ _ _ true _ (by decide)

end FlagEvaluation

end OpenLangGraph

import OpenLangGraph.Services.Federation.ContextPropagation

/-!
# The timeout budget of a call

The budget of a call is copied into a child context, reduced by `update_timeout`, and carried in a
header, which is read back between the bounds of `_clamp_timeout`. These bounds do not let the
budget grow, but for one that is below `MIN_TIMEOUT_MS`: it comes out of the headers as
`MIN_TIMEOUT_MS`, also if it was exhausted.

## Main definitions

* `Step`, `Step.apply` — the ways of deriving a context from another
* `derive` — a chain of steps

## Main results

* `timeout_apply` — what a step makes of the budget
* `budget_shrinks` — the budget along a chain
-/

namespace OpenLangGraph

namespace ContextPropagation

open PyString DistributedExecutionContext

/-- A way of deriving a context from another. -/
inductive Step
  | createChildContext (agentId spanId : Str)
  | roundTrip (drawn : Drawn)
  | updateTimeout (elapsedMs : ℕ)

/-- The context is sent and received. -/
def Step.isRoundTrip : Step → Bool
  | .roundTrip _ => true
  | _ => false

section

variable {ν : Type} (U : UnicodeTables) (str : ν → Str) (ofStr : Str → ν)

def Step.apply (ctx : DistributedExecutionContext ν) : Step → DistributedExecutionContext ν
  | .createChildContext agentId spanId => ctx.createChildContext agentId spanId
  | .roundTrip drawn => fromHeaders U.toUnicodeDb ofStr drawn (ctx.toHeaders str)
  | .updateTimeout elapsedMs => ctx.updateTimeout elapsedMs

/-- The context at the end of a chain of steps. -/
def derive (ctx : DistributedExecutionContext ν) (steps : List Step) :
    DistributedExecutionContext ν :=
  steps.foldl (Step.apply U str ofStr) ctx

/-- The budget is read back between the bounds. -/
theorem timeout_roundTrip (ctx : DistributedExecutionContext ν) (drawn : Drawn) :
    (fromHeaders U.toUnicodeDb ofStr drawn (ctx.toHeaders str)).timeoutRemainingMs =
      clampTimeout ctx.timeoutRemainingMs := by
  have hne : intRepr ctx.timeoutRemainingMs ≠ [] := by
    rw [intRepr]
    split
    · exact List.cons_ne_nil _ _
    · exact Nat.toDigits_ne_nil
  rw [fromHeaders, header_timeout]
  dsimp only
  rw [parseTimeout, if_neg hne, U.int_intRepr]

/-- **One step** does not let the budget grow, but for a round trip of less than a header
carries. -/
theorem timeout_apply (ctx : DistributedExecutionContext ν) (step : Step) :
    (step.apply U str ofStr ctx).timeoutRemainingMs ≤
      if step.isRoundTrip then max ctx.timeoutRemainingMs minTimeoutMs
      else max ctx.timeoutRemainingMs 0 := by
  cases step with
  | createChildContext agentId spanId =>
    show ctx.timeoutRemainingMs ≤ max ctx.timeoutRemainingMs 0
    omega
  | roundTrip drawn =>
    show (fromHeaders U.toUnicodeDb ofStr drawn (ctx.toHeaders str)).timeoutRemainingMs ≤
      max ctx.timeoutRemainingMs minTimeoutMs
    rw [timeout_roundTrip, clampTimeout]
    omega
  | updateTimeout elapsedMs =>
    show max 0 (ctx.timeoutRemainingMs - elapsedMs) ≤ max ctx.timeoutRemainingMs 0
    omega

/-- Along a chain the budget does not exceed the greater of what it was and what a header carries at
least. -/
theorem timeout_derive (ctx : DistributedExecutionContext ν) (steps : List Step) :
    (derive U str ofStr ctx steps).timeoutRemainingMs ≤
      max ctx.timeoutRemainingMs minTimeoutMs := by
  induction steps generalizing ctx with
  | nil => exact Int.le_max_left _ _
  | cons step steps ih =>
    have hstep := timeout_apply U str ofStr ctx step
    have hrest := ih (step.apply U str ofStr ctx)
    rw [derive, List.foldl_cons, ← derive]
    have hmin : 0 ≤ minTimeoutMs := by decide
    split at hstep <;> omega

/-- An exhausted budget stays exhausted, as long as it is in no header. -/
theorem exceeded_derive {ctx : DistributedExecutionContext ν} {steps : List Step}
    (hexceeded : ctx.isTimeoutExceeded = true)
    (hsteps : ∀ step ∈ steps, step.isRoundTrip = false) :
    (derive U str ofStr ctx steps).isTimeoutExceeded = true := by
  induction steps generalizing ctx with
  | nil => exact hexceeded
  | cons step steps ih =>
    refine ih (?_ : (step.apply U str ofStr ctx).isTimeoutExceeded = true)
      fun later hlater => hsteps later (List.mem_cons_of_mem _ hlater)
    have hstep := timeout_apply U str ofStr ctx step
    rw [hsteps step List.mem_cons_self, if_neg (by decide)] at hstep
    simp only [DistributedExecutionContext.isTimeoutExceeded, decide_eq_true_eq] at hexceeded ⊢
    omega

/-- **The budget along a chain** is never more than the one before it, which counts as `0` if it is
negative and as `MIN_TIMEOUT_MS` if it is less and goes through the headers; once exhausted it stays
so, as long as it is in no header. -/
theorem budget_shrinks (ctx : DistributedExecutionContext ν) (steps : List Step) :
    (∀ step : Step, (step.apply U str ofStr (derive U str ofStr ctx steps)).timeoutRemainingMs ≤
      if step.isRoundTrip then max (derive U str ofStr ctx steps).timeoutRemainingMs minTimeoutMs
      else max (derive U str ofStr ctx steps).timeoutRemainingMs 0) ∧
    (∀ drawn, (derive U str ofStr ctx steps).timeoutRemainingMs < minTimeoutMs →
      ((Step.roundTrip drawn).apply U str ofStr
        (derive U str ofStr ctx steps)).timeoutRemainingMs = minTimeoutMs) ∧
    ((derive U str ofStr ctx steps).isTimeoutExceeded = true →
      ∀ later : List Step, (∀ step ∈ later, step.isRoundTrip = false) →
        (derive U str ofStr (derive U str ofStr ctx steps) later).isTimeoutExceeded = true) ∧
    (derive U str ofStr ctx steps).timeoutRemainingMs ≤
      max ctx.timeoutRemainingMs minTimeoutMs := by
  refine ⟨fun step => timeout_apply U str ofStr _ step, fun drawn hless => ?_,
    fun hexceeded later hlater => exceeded_derive U str ofStr hexceeded hlater,
    timeout_derive U str ofStr ctx steps⟩
  show (fromHeaders U.toUnicodeDb ofStr drawn (toHeaders str _)).timeoutRemainingMs = minTimeoutMs
  rw [timeout_roundTrip, clampTimeout]
  omega

end

/-! ### A budget that comes back -/

def defaultContext : DistributedExecutionContext Str :=
  .new (List.replicate 32 'a') (List.replicate 16 'a')

/-- The default budget is used up, also for the next agent. -/
theorem budget_shrinks_used_up :
    (derive UnicodeTables.ascii id id (derive UnicodeTables.ascii id id defaultContext
      [.updateTimeout 30000]) [.createChildContext "coder".toList []]).isTimeoutExceeded = true :=
  (budget_shrinks UnicodeTables.ascii id id defaultContext [.updateTimeout 30000]).2.2.1
    (by decide) _ (by decide)

/-- It is there again after one hop. -/
theorem budget_returns :
    ¬ ∀ (ctx : DistributedExecutionContext Str) (steps : List Step) (step : Step),
      (step.apply UnicodeTables.ascii id id
          (derive UnicodeTables.ascii id id ctx steps)).timeoutRemainingMs ≤
        (derive UnicodeTables.ascii id id ctx steps).timeoutRemainingMs ∧
      ((derive UnicodeTables.ascii id id ctx steps).isTimeoutExceeded = true →
        (step.apply UnicodeTables.ascii id id
          (derive UnicodeTables.ascii id id ctx steps)).isTimeoutExceeded = true) := by
  intro hall
  have hback := (hall defaultContext [.updateTimeout 30000] (.roundTrip ⟨[], [], []⟩)).1
  rw [show Step.apply UnicodeTables.ascii id id _ (.roundTrip ⟨[], [], []⟩) =
    fromHeaders UnicodeTables.ascii.toUnicodeDb id ⟨[], [], []⟩ _ from rfl,
    timeout_roundTrip] at hback
  exact absurd hback (by decide)

end ContextPropagation

end OpenLangGraph

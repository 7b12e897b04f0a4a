/-
**The rule engine.**

`evaluateRules` asks five rules in order and returns the first result, `allow` if there is none. The
weights of the categories and the thresholds are the exact decimals of the source.

* `evaluateRules_cases` — a result comes from one of the rules, or is the default.
* `evaluateRules_exhausted` — with nothing remaining, every event is blocked.
* `remaining_le_of_budget_exhausted` — only then is the reason `budget_exhausted`.
* `evaluateRules_ne_allow` — an event that costs at least what remains is not simply allowed: the
  cost the warning rule computes is the cost that is deducted (`effectiveCost`).
* `effectiveCost_pieces` — a session reported in pieces costs almost what it costs as a whole.
-/

import Mathlib.Data.Rat.Floor
import Mathlib.Tactic.NormNum
import Mathlib.Tactic.Linarith
import ScreenSync.Foundation.Clock
import ScreenSync.Foundation.Share
import ScreenSync.Shared.Message

namespace ScreenSync.Decision

open ScreenSync.Foundation ScreenSync.Shared

/-! ### Contexts and results -/

/-- All facts the rule engine needs to evaluate a usage event. -/
structure RuleContext where
  deviceId : DeviceId
  userId : UserId
  appCategory : String
  durationSeconds : Int
  remainingSeconds : Int
  devicePriority : Nat
  timestamp : UtcTime

inductive Action
  | allow
  | warn
  | block
  deriving DecidableEq

/-- The text of an action on the wire. -/
def Action.value : Action → String
  | .allow => "allow"
  | .warn => "warn"
  | .block => "block"

structure RuleResult where
  action : Action
  reason : String
  metadata : Dict Json

/-! ### Weights, windows and thresholds -/

def categoryWeight : Dict ℚ :=
  [("productivity", 0.5), ("active_social", 0.8), ("passive_social", 1.0), ("entertainment", 1.2),
    ("passive_entertainment", 1.5), ("unknown", 1.0)]

def bedtimeStart : Nat := timeOfDay 22 0
def bedtimeEnd : Nat := timeOfDay 6 0
def focusStart : Nat := timeOfDay 9 0
def focusEnd : Nat := timeOfDay 12 0

def isBedtime (ts : UtcTime) : Prop :=
  if bedtimeStart ≤ bedtimeEnd then bedtimeStart ≤ ts.time ∧ ts.time ≤ bedtimeEnd
  else bedtimeStart ≤ ts.time ∨ ts.time ≤ bedtimeEnd

instance (ts : UtcTime) : Decidable (isBedtime ts) := inferInstanceAs (Decidable (ite _ _ _))

def isFocusHours (ts : UtcTime) : Prop := focusStart ≤ ts.time ∧ ts.time ≤ focusEnd

instance (ts : UtcTime) : Decidable (isFocusHours ts) := inferInstanceAs (Decidable (_ ∧ _))

def warnThresholdSeconds : Int := 600
def blockThresholdSeconds : Int := 0

/-- Weighted seconds to deduct from a budget. -/
def effectiveCost (appCategory : String) (rawSeconds : Int) : Int :=
  let weight := (categoryWeight.get appCategory).getD 1.0
  truncate ((rawSeconds : ℚ) * weight)

/-! ### The rules -/

/-- Block all non-productivity usage during bedtime hours. -/
def ruleBedtimeBlock (ctx : RuleContext) : Option RuleResult :=
  if isBedtime ctx.timestamp ∧ ctx.appCategory ≠ "productivity" then
    some
      { action := .block
        reason := "bedtime_policy"
        metadata := [("bedtime_start", .str (timeText bedtimeStart)),
          ("bedtime_end", .str (timeText bedtimeEnd))] }
  else none

/-- Block entertainment during designated focus hours. -/
def ruleFocusHours (ctx : RuleContext) : Option RuleResult :=
  if isFocusHours ctx.timestamp ∧
      ctx.appCategory ∈ ["entertainment", "passive_entertainment", "passive_social"] then
    some
      { action := .block
        reason := "focus_hours_policy"
        metadata := [("focus_start", .str (timeText focusStart)),
          ("focus_end", .str (timeText focusEnd))] }
  else none

/-- Block when the daily budget is fully consumed. -/
def ruleBudgetExhausted (ctx : RuleContext) : Option RuleResult :=
  if ctx.remainingSeconds ≤ blockThresholdSeconds then
    some
      { action := .block
        reason := "budget_exhausted"
        metadata := [("remaining_seconds", .int ctx.remainingSeconds)] }
  else none

/-- Warn the user when the budget is running low. -/
def ruleBudgetWarning (ctx : RuleContext) : Option RuleResult :=
  if blockThresholdSeconds < ctx.remainingSeconds ∧ ctx.remainingSeconds ≤ warnThresholdSeconds then
    some
      { action := .warn
        reason := "budget_low"
        metadata := [("remaining_seconds", .int ctx.remainingSeconds)] }
  else none

/-- Warn when a single session would consume more than 20% of the remaining budget. -/
def ruleHighCostCategory (ctx : RuleContext) : Option RuleResult :=
  let weight := (categoryWeight.get ctx.appCategory).getD 1.0
  let effectiveCost := truncate ((ctx.durationSeconds : ℚ) * weight)
  if 0 < ctx.remainingSeconds then
    let costRatio : ℚ := effectiveCost / ctx.remainingSeconds
    if 0.20 < costRatio then
      some
        { action := .warn
          reason := "high_cost_session"
          metadata := [("category", .str ctx.appCategory),
            ("effective_cost_seconds", .int effectiveCost),
            ("cost_ratio", .float (roundTo 2 costRatio))] }
    else none
  else none

def rules : List (RuleContext → Option RuleResult) :=
  [ruleBedtimeBlock, ruleFocusHours, ruleBudgetExhausted, ruleBudgetWarning, ruleHighCostCategory]

/-- Run all rules in priority order; the first result counts. -/
def evaluateRules (ctx : RuleContext) : RuleResult :=
  match rules.findSome? fun ruleFn => ruleFn ctx with
  | some result => result
  | none => { action := .allow, reason := "all_rules_passed", metadata := [] }

/-! ### What a result says -/

theorem ruleBedtimeBlock_some {ctx : RuleContext} {result : RuleResult}
    (fired : ruleBedtimeBlock ctx = some result) :
    result.action = .block ∧ result.reason = "bedtime_policy" := by
  unfold ruleBedtimeBlock at fired
  split at fired <;> cases fired
  exact ⟨rfl, rfl⟩

theorem ruleFocusHours_some {ctx : RuleContext} {result : RuleResult}
    (fired : ruleFocusHours ctx = some result) :
    result.action = .block ∧ result.reason = "focus_hours_policy" := by
  unfold ruleFocusHours at fired
  split at fired <;> cases fired
  exact ⟨rfl, rfl⟩

theorem ruleBudgetExhausted_some {ctx : RuleContext} {result : RuleResult}
    (fired : ruleBudgetExhausted ctx = some result) :
    ctx.remainingSeconds ≤ 0 ∧ result.action = .block ∧ result.reason = "budget_exhausted" := by
  unfold ruleBudgetExhausted at fired
  split at fired
  · rename_i nothing
    cases fired
    exact ⟨nothing, rfl, rfl⟩
  · cases fired

theorem ruleBudgetWarning_some {ctx : RuleContext} {result : RuleResult}
    (fired : ruleBudgetWarning ctx = some result) :
    0 < ctx.remainingSeconds ∧ result.action = .warn ∧ result.reason = "budget_low" := by
  unfold ruleBudgetWarning at fired
  split at fired
  · rename_i low
    cases fired
    exact ⟨low.1, rfl, rfl⟩
  · cases fired

theorem ruleHighCostCategory_some {ctx : RuleContext} {result : RuleResult}
    (fired : ruleHighCostCategory ctx = some result) :
    0 < ctx.remainingSeconds ∧ result.action = .warn ∧ result.reason = "high_cost_session" := by
  simp only [ruleHighCostCategory] at fired
  split at fired
  · rename_i left
    split at fired <;> cases fired
    exact ⟨left, rfl, rfl⟩
  · cases fired

/-- The cost of the warning rule is the cost that is deducted. -/
theorem costRatio_le_of_silent {ctx : RuleContext} (silent : ruleHighCostCategory ctx = none)
    (left : 0 < ctx.remainingSeconds) :
    (effectiveCost ctx.appCategory ctx.durationSeconds : ℚ) / ctx.remainingSeconds ≤ 0.20 := by
  by_contra costly
  simp only [ruleHighCostCategory] at silent
  simp only [effectiveCost] at costly
  rw [if_pos left, if_pos (not_le.mp costly)] at silent
  cases silent

/-- **A result comes from a rule**, each with its own reason, or it is the default. -/
theorem evaluateRules_cases (ctx : RuleContext) :
    ((evaluateRules ctx).action = .block ∧
        ((evaluateRules ctx).reason = "bedtime_policy" ∨
          (evaluateRules ctx).reason = "focus_hours_policy" ∨
          ctx.remainingSeconds ≤ 0 ∧ (evaluateRules ctx).reason = "budget_exhausted")) ∨
      0 < ctx.remainingSeconds ∧ (evaluateRules ctx).action = .warn ∧
        ((evaluateRules ctx).reason = "budget_low" ∨
          (evaluateRules ctx).reason = "high_cost_session") ∨
      (∀ ruleFn ∈ rules, ruleFn ctx = none) ∧ (evaluateRules ctx).action = .allow ∧
        (evaluateRules ctx).reason = "all_rules_passed" := by
  unfold evaluateRules
  split
  · rename_i result found
    obtain ⟨ruleFn, member, fired⟩ := List.exists_of_findSome?_eq_some found
    simp only [rules, List.mem_cons, List.not_mem_nil, or_false] at member
    rcases member with rfl | rfl | rfl | rfl | rfl
    · obtain ⟨action, reason⟩ := ruleBedtimeBlock_some fired
      exact .inl ⟨action, .inl reason⟩
    · obtain ⟨action, reason⟩ := ruleFocusHours_some fired
      exact .inl ⟨action, .inr (.inl reason)⟩
    · obtain ⟨nothing, action, reason⟩ := ruleBudgetExhausted_some fired
      exact .inl ⟨action, .inr (.inr ⟨nothing, reason⟩)⟩
    · obtain ⟨left, action, reason⟩ := ruleBudgetWarning_some fired
      exact .inr (.inl ⟨left, action, .inl reason⟩)
    · obtain ⟨left, action, reason⟩ := ruleHighCostCategory_some fired
      exact .inr (.inl ⟨left, action, .inr reason⟩)
  · rename_i absent
    exact .inr (.inr ⟨List.findSome?_eq_none_iff.mp absent, rfl, rfl⟩)

/-- **Nothing remaining, nothing allowed.** -/
theorem evaluateRules_exhausted {ctx : RuleContext} (nothing : ctx.remainingSeconds ≤ 0) :
    (evaluateRules ctx).action = .block := by
  rcases evaluateRules_cases ctx with ⟨action, -⟩ | ⟨left, -⟩ | ⟨silent, -⟩
  · exact action
  · exact absurd nothing (not_le.mpr left)
  · have fired : ruleBudgetExhausted ctx = none := silent _ (by simp [rules])
    have exhausted : ctx.remainingSeconds ≤ blockThresholdSeconds := nothing
    rw [ruleBudgetExhausted, if_pos exhausted] at fired
    cases fired

/-- Productive use is blocked by no policy, as long as something remains. -/
theorem evaluateRules_productive {ctx : RuleContext} (productive : ctx.appCategory = "productivity")
    (left : 0 < ctx.remainingSeconds) : (evaluateRules ctx).action ≠ .block := by
  intro blocked
  unfold evaluateRules at blocked
  split at blocked
  · rename_i result found
    obtain ⟨ruleFn, member, fired⟩ := List.exists_of_findSome?_eq_some found
    simp only [rules, List.mem_cons, List.not_mem_nil, or_false] at member
    rcases member with rfl | rfl | rfl | rfl | rfl
    · have unfired : ruleBedtimeBlock ctx = none := if_neg fun night => night.2 productive
      cases unfired.symm.trans fired
    · have unfired : ruleFocusHours ctx = none := if_neg fun focus => by
        rw [productive] at focus
        exact absurd focus.2 (by decide)
      cases unfired.symm.trans fired
    · exact absurd (ruleBudgetExhausted_some fired).1 (not_le.mpr left)
    · cases (ruleBudgetWarning_some fired).2.1.symm.trans blocked
    · cases (ruleHighCostCategory_some fired).2.1.symm.trans blocked
  · cases blocked

/-- The reason `budget_exhausted` is given only when nothing remains. -/
theorem remaining_le_of_budget_exhausted {ctx : RuleContext}
    (reason : (evaluateRules ctx).reason = "budget_exhausted") : ctx.remainingSeconds ≤ 0 := by
  rcases evaluateRules_cases ctx with ⟨-, other | other | ⟨nothing, -⟩⟩ |
    ⟨-, -, other | other⟩ | ⟨-, -, other⟩
  · exact absurd (reason.symm.trans other) (by decide)
  · exact absurd (reason.symm.trans other) (by decide)
  · exact nothing
  · exact absurd (reason.symm.trans other) (by decide)
  · exact absurd (reason.symm.trans other) (by decide)
  · exact absurd (reason.symm.trans other) (by decide)

/-- **A charge that takes all that remains is announced**: the warning rule and the deduction agree
on the cost, and the whole of what remains is more than a fifth of it. -/
theorem evaluateRules_ne_allow {ctx : RuleContext} (left : 0 < ctx.remainingSeconds)
    (enough : ctx.remainingSeconds ≤ effectiveCost ctx.appCategory ctx.durationSeconds) :
    (evaluateRules ctx).action ≠ .allow := by
  intro allowed
  rcases evaluateRules_cases ctx with ⟨action, -⟩ | ⟨-, action, -⟩ | ⟨silent, -⟩
  · cases action.symm.trans allowed
  · cases action.symm.trans allowed
  · have fired : ruleHighCostCategory ctx = none := silent _ (by simp [rules])
    have positive : (0 : ℚ) < ctx.remainingSeconds := by exact_mod_cast left
    have whole : (1 : ℚ) ≤ (effectiveCost ctx.appCategory ctx.durationSeconds : ℚ) /
        ctx.remainingSeconds := by
      rw [one_le_div positive]
      exact_mod_cast enough
    have cheap := costRatio_le_of_silent fired left
    norm_num at cheap
    linarith

/-! ### A session in pieces -/

theorem weight_nonneg (appCategory : String) :
    (0 : ℚ) ≤ (categoryWeight.get appCategory).getD 1.0 := by
  have listed : ∀ entry ∈ categoryWeight, (0 : ℚ) ≤ entry.2 := by
    simp only [categoryWeight, List.forall_mem_cons]
    norm_num
  cases found : categoryWeight.get appCategory with
  | none =>
    rw [Option.getD_none]
    norm_num
  | some weight => exact listed _ (Dict.mem_of_get found)

/-- **A session in pieces** costs at most what the whole of it costs, and falls short of that by
less than a second for every piece but one. -/
theorem effectiveCost_pieces (appCategory : String) (durations : List Int)
    (pieces : durations ≠ []) (nonneg : ∀ duration ∈ durations, 0 ≤ duration) :
    (durations.map (effectiveCost appCategory)).sum ≤ effectiveCost appCategory durations.sum ∧
      effectiveCost appCategory durations.sum ≤
        (durations.map (effectiveCost appCategory)).sum + (durations.length - 1 : ℤ) := by
  let weight : ℚ := (categoryWeight.get appCategory).getD 1.0
  let weighted : List ℚ := durations.map fun duration : Int => (duration : ℚ) * weight
  have weighted_nonneg : ∀ piece ∈ weighted, 0 ≤ piece := by
    intro piece member
    obtain ⟨duration, listed, rfl⟩ := List.mem_map.mp member
    have whole : (0 : ℚ) ≤ duration := by exact_mod_cast nonneg duration listed
    exact mul_nonneg whole (weight_nonneg appCategory)
  have costs : weighted.map truncate = durations.map (effectiveCost appCategory) := by
    rw [List.map_map]
    rfl
  have total : weighted.sum = (durations.sum : ℚ) * weight := by
    rw [List.sum_map_mul_right, Int.cast_list_sum]
  have whole : truncate weighted.sum = effectiveCost appCategory durations.sum := by
    rw [total]
    rfl
  have length : weighted.length = durations.length := List.length_map _
  rw [← costs, ← whole, ← length]
  exact ⟨sum_truncate_le weighted_nonneg, truncate_sum_le weighted_nonneg (by simpa [weighted])⟩

/-- Ten seconds of entertainment, reported second by second. -/
theorem effectiveCost_pieces_seconds :
    ((List.replicate 10 1).map (effectiveCost "entertainment")).sum ≤
        effectiveCost "entertainment" (List.replicate 10 1).sum ∧
      effectiveCost "entertainment" (List.replicate 10 1).sum ≤
        ((List.replicate 10 1).map (effectiveCost "entertainment")).sum +
          ((List.replicate 10 (1 : Int)).length - 1 : ℤ) :=
  effectiveCost_pieces "entertainment" (List.replicate 10 1) (by decide) (by decide)

end ScreenSync.Decision

/-
**Severity of a verdict.**

The five rules are asked in order and the first result counts. The blocking rules come first, so the
first result is also the most severe one; and a shorter session, or more time remaining, is never
judged more severely.

* `evaluateRules_action` — the verdict is the level of the first match.
* `rules_ordered` — no rule is more severe than a rule ahead of it.
* `evaluateRules_severity` — so the verdict is the maximum, and it is monotone in what remains and
  in the duration.
-/

import Mathlib.Order.Lattice
import ScreenSync.Decision.Rules
import ScreenSync.Foundation.FirstMatch

namespace ScreenSync.Decision

open ScreenSync.Foundation ScreenSync.Shared

/-! ### Severities -/

/-- `allow < warn < block`. -/
def Action.severity : Action → Nat
  | .allow => 0
  | .warn => 1
  | .block => 2

theorem Action.severity_injective : Function.Injective Action.severity := by
  intro first second same
  cases first <;> cases second <;> first | rfl | cases same

instance : LinearOrder Action := LinearOrder.lift' Action.severity Action.severity_injective

instance : OrderBot Action where
  bot := .allow
  bot_le action := Nat.zero_le action.severity

/-! ### The order of the rules -/

/-- The verdict is the level of the first result. -/
theorem evaluateRules_action (ctx : RuleContext) :
    (evaluateRules ctx).action = firstLevel RuleResult.action rules ctx := by
  unfold evaluateRules firstLevel
  split
  · rename_i result found
    rw [found]
    rfl
  · rename_i absent
    rw [absent]
    rfl

theorem le_block (action : Action) : action ≤ .block := by
  cases action <;> decide

/-- **No rule is more severe than a rule ahead of it.** -/
theorem rules_ordered (ctx : RuleContext) : rules.Pairwise fun earlier later =>
    ∀ a b : RuleResult, earlier ctx = some a → later ctx = some b → b.action ≤ a.action := by
  unfold rules
  refine .cons (fun later _ a b fired _ => ?_) (.cons (fun later _ a b fired _ => ?_)
    (.cons (fun later _ a b fired _ => ?_) (.cons (fun later last a b fired next => ?_)
      (List.pairwise_singleton _ _))))
  · rw [(ruleBedtimeBlock_some fired).1]
    exact le_block _
  · rw [(ruleFocusHours_some fired).1]
    exact le_block _
  · rw [(ruleBudgetExhausted_some fired).2.1]
    exact le_block _
  · obtain rfl := List.mem_singleton.mp last
    rw [(ruleBudgetWarning_some fired).2.1, (ruleHighCostCategory_some next).2.1]

theorem evaluateRules_strictest (ctx : RuleContext) :
    (evaluateRules ctx).action = strictest RuleResult.action rules ctx :=
  (evaluateRules_action ctx).trans (firstLevel_eq_strictest (rules_ordered ctx))

/-! ### When the rules that read the budget fire -/

theorem ruleBudgetExhausted_fires {ctx : RuleContext} (nothing : ctx.remainingSeconds ≤ 0) :
    ∃ result, ruleBudgetExhausted ctx = some result ∧ result.action = .block := by
  have exhausted : ctx.remainingSeconds ≤ blockThresholdSeconds := nothing
  rw [ruleBudgetExhausted, if_pos exhausted]
  exact ⟨_, rfl, rfl⟩

theorem ruleBudgetWarning_fires_iff {ctx : RuleContext} :
    (∃ result, ruleBudgetWarning ctx = some result) ↔
      0 < ctx.remainingSeconds ∧ ctx.remainingSeconds ≤ warnThresholdSeconds := by
  unfold ruleBudgetWarning
  split
  · rename_i low
    exact iff_of_true ⟨_, rfl⟩ low
  · rename_i enough
    exact iff_of_false (by simp) enough

theorem ruleHighCostCategory_fires_iff {ctx : RuleContext} :
    (∃ result, ruleHighCostCategory ctx = some result) ↔
      0 < ctx.remainingSeconds ∧
        (0.20 : ℚ) < effectiveCost ctx.appCategory ctx.durationSeconds / ctx.remainingSeconds := by
  simp only [ruleHighCostCategory, effectiveCost]
  split
  · rename_i left
    rw [and_iff_right left]
    split
    · rename_i costly
      exact iff_of_true ⟨_, rfl⟩ costly
    · rename_i cheap
      exact iff_of_false (by simp) cheap
  · rename_i nothing
    exact iff_of_false (by simp) fun both => nothing both.1

/-- A longer session never costs less. -/
theorem effectiveCost_mono (appCategory : String) {shorter longer : Int} (le : shorter ≤ longer) :
    effectiveCost appCategory shorter ≤ effectiveCost appCategory longer := by
  refine truncate_mono (mul_le_mul_of_nonneg_right ?_ (weight_nonneg appCategory))
  exact_mod_cast le

/-- A cost is a larger part of less time. -/
theorem ratio_antitone {cost less more : Int} (left : 0 < less) (le : less ≤ more)
    (costly : (0.20 : ℚ) < (cost : ℚ) / more) : (cost : ℚ) / more ≤ (cost : ℚ) / less := by
  have some_left : (0 : ℚ) < less := by exact_mod_cast left
  have more_left : (0 : ℚ) < more := by exact_mod_cast left.trans_le le
  have positive : (0 : ℚ) < cost := by
    by_contra nonpos
    have small : (cost : ℚ) / more ≤ 0 := div_nonpos_of_nonpos_of_nonneg (not_lt.mp nonpos)
      more_left.le
    norm_num at costly
    linarith
  exact div_le_div_of_nonneg_left positive.le some_left (by exact_mod_cast le)

/-! ### Two contexts -/

/-- A rule says the same wherever it fires. -/
theorem rule_action {ctx other : RuleContext} {ruleFn : RuleContext → Option RuleResult}
    (listed : ruleFn ∈ rules) {a b : RuleResult} (fired : ruleFn ctx = some a)
    (replied : ruleFn other = some b) : a.action = b.action := by
  simp only [rules, List.mem_cons, List.not_mem_nil, or_false] at listed
  rcases listed with rfl | rfl | rfl | rfl | rfl
  · rw [(ruleBedtimeBlock_some fired).1, (ruleBedtimeBlock_some replied).1]
  · rw [(ruleFocusHours_some fired).1, (ruleFocusHours_some replied).1]
  · rw [(ruleBudgetExhausted_some fired).2.1, (ruleBudgetExhausted_some replied).2.1]
  · rw [(ruleBudgetWarning_some fired).2.1, (ruleBudgetWarning_some replied).2.1]
  · rw [(ruleHighCostCategory_some fired).2.1, (ruleHighCostCategory_some replied).2.1]

/-- A rule that fires again keeps the verdict as severe. -/
theorem fires_again {ctx other : RuleContext} {ruleFn : RuleContext → Option RuleResult}
    (listed : ruleFn ∈ rules) {result : RuleResult} (fired : ruleFn ctx = some result)
    (fires : ∃ reply, ruleFn other = some reply) :
    ∃ rule ∈ rules, ∃ reply, rule other = some reply ∧ result.action ≤ reply.action := by
  obtain ⟨reply, replied⟩ := fires
  exact ⟨ruleFn, listed, reply, replied, (rule_action listed fired replied).le⟩

/-- **Less time remaining** is never judged more mildly. -/
theorem strictest_remaining (ctx : RuleContext) {less more : Int} (le : less ≤ more) :
    strictest RuleResult.action rules { ctx with remainingSeconds := more } ≤
      strictest RuleResult.action rules { ctx with remainingSeconds := less } := by
  by_cases nothing : less ≤ 0
  · have fires : ∃ result, ruleBudgetExhausted { ctx with remainingSeconds := less } =
        some result ∧ result.action = .block := ruleBudgetExhausted_fires nothing
    obtain ⟨result, fired, block⟩ := fires
    exact (le_block _).trans (block ▸ le_strictest (by simp [rules]) fired)
  · have left : 0 < less := not_le.mp nothing
    refine strictest_mono fun ruleFn member result fired => ?_
    have listed := member
    simp only [rules, List.mem_cons, List.not_mem_nil, or_false] at member
    rcases member with rfl | rfl | rfl | rfl | rfl
    · exact fires_again listed fired ⟨result, fired⟩
    · exact fires_again listed fired ⟨result, fired⟩
    · exact absurd (ruleBudgetExhausted_some fired).1 (not_le.mpr (left.trans_le le))
    · have low : more ≤ warnThresholdSeconds := (ruleBudgetWarning_fires_iff.mp ⟨result, fired⟩).2
      exact fires_again listed fired (ruleBudgetWarning_fires_iff.mpr ⟨left, le.trans low⟩)
    · have costly : (0.20 : ℚ) < effectiveCost ctx.appCategory ctx.durationSeconds / more :=
        (ruleHighCostCategory_fires_iff.mp ⟨result, fired⟩).2
      exact fires_again listed fired (ruleHighCostCategory_fires_iff.mpr
        ⟨left, costly.trans_le (ratio_antitone left le costly)⟩)

/-- **A longer session** is never judged more mildly. -/
theorem strictest_duration (ctx : RuleContext) {shorter longer : Int} (le : shorter ≤ longer) :
    strictest RuleResult.action rules { ctx with durationSeconds := shorter } ≤
      strictest RuleResult.action rules { ctx with durationSeconds := longer } := by
  refine strictest_mono fun ruleFn member result fired => ?_
  have listed := member
  simp only [rules, List.mem_cons, List.not_mem_nil, or_false] at member
  rcases member with rfl | rfl | rfl | rfl | rfl
  · exact fires_again listed fired ⟨result, fired⟩
  · exact fires_again listed fired ⟨result, fired⟩
  · exact fires_again listed fired ⟨result, fired⟩
  · exact fires_again listed fired ⟨result, fired⟩
  · obtain ⟨left, costly⟩ := ruleHighCostCategory_fires_iff.mp ⟨result, fired⟩
    have dearer : (effectiveCost ctx.appCategory shorter : ℚ) / ctx.remainingSeconds ≤
        effectiveCost ctx.appCategory longer / ctx.remainingSeconds := by
      apply div_le_div_of_nonneg_right
      · exact_mod_cast effectiveCost_mono ctx.appCategory le
      · exact_mod_cast left.le
    exact fires_again listed fired
      (ruleHighCostCategory_fires_iff.mpr ⟨left, costly.trans_le dearer⟩)

/-- **The verdict is the most severe result, and it is monotone.** It is the maximum over the
results of all five rules, `allow` if there are none; so a result that blocks is never masked. Less
time remaining, or a longer session, is never judged more mildly. -/
theorem evaluateRules_severity :
    (∀ ctx : RuleContext, (evaluateRules ctx).action =
        ((rules.filterMap fun ruleFn => ruleFn ctx).map RuleResult.action).foldr max .allow) ∧
      (∀ (ctx : RuleContext) (ruleFn) (result : RuleResult), ruleFn ∈ rules →
        ruleFn ctx = some result → result.action = .block →
          (evaluateRules ctx).action = .block) ∧
      (∀ (ctx : RuleContext) (less more : Int), less ≤ more →
        (evaluateRules { ctx with remainingSeconds := more }).action ≤
          (evaluateRules { ctx with remainingSeconds := less }).action) ∧
      ∀ (ctx : RuleContext) (shorter longer : Int), shorter ≤ longer →
        (evaluateRules { ctx with durationSeconds := shorter }).action ≤
          (evaluateRules { ctx with durationSeconds := longer }).action := by
  refine ⟨evaluateRules_strictest, fun ctx ruleFn result member fired block => ?_,
    fun ctx less more le => ?_, fun ctx shorter longer le => ?_⟩
  · rw [evaluateRules_strictest]
    exact le_antisymm (le_block _) (block ▸ le_strictest member fired)
  · rw [evaluateRules_strictest, evaluateRules_strictest]
    exact strictest_remaining ctx le
  · rw [evaluateRules_strictest, evaluateRules_strictest]
    exact strictest_duration ctx le

end ScreenSync.Decision

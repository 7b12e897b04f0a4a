/-
**Grouping in one pass.**

A loop keeps a dictionary of groups: each item is added to what is kept under its key, a key that is
new starting from `empty`. What an item adds may itself be a group in a dictionary of its own.

* `get_grouped` — under each key stands what its own items add up to, in their order; the invariant
  by which it is proved is the statement itself, for the items so far.
* `sum_grouped` — where each item adds an amount, the groups together hold all of the amounts.
* `tally` — the groups of amounts that are summed: they do not depend on the order of the items
  (`tally_perm`).
* `sum_filter_eq` — the same for a partition into finitely many classes.
-/

import Mathlib.Algebra.BigOperators.Group.Finset.Piecewise
import Mathlib.Data.Fintype.Basic
import ScreenSync.Foundation.Json

namespace ScreenSync.Foundation

variable {β σ M : Type*}

/-! ### The loop -/

section Groups

variable (key : β → String) (empty : σ) (step : σ → β → σ)

/-- One turn of the loop. -/
def accumulate (groups : Dict σ) (item : β) : Dict σ :=
  groups.set (key item) (step ((groups.get (key item)).getD empty) item)

/-- The loop. -/
def grouped (items : List β) : Dict σ := items.foldl (accumulate key empty step) []

/-- The items with a key. -/
def ofKey (items : List β) (name : String) : List β := items.filter fun item => key item = name

variable {key}

theorem ofKey_concat (items : List β) (item : β) (name : String) :
    ofKey key (items ++ [item]) name =
      if key item = name then ofKey key items name ++ [item] else ofKey key items name := by
  unfold ofKey
  rw [List.filter_append, List.filter_singleton]
  by_cases same : key item = name
  · rw [if_pos same, decide_eq_true same]
    rfl
  · rw [if_neg same, decide_eq_false same]
    exact List.append_nil _

variable (key)

theorem grouped_concat (items : List β) (item : β) :
    grouped key empty step (items ++ [item]) =
      accumulate key empty step (grouped key empty step items) item := by
  show (items ++ [item]).foldl (accumulate key empty step) [] = _
  rw [List.foldl_concat]
  rfl

/-- **Each group is what its own items add up to.** -/
theorem get_grouped (items : List β) (name : String) :
    (grouped key empty step items).get name =
      if ofKey key items name = [] then none
      else some ((ofKey key items name).foldl step empty) := by
  induction items using List.reverseRecOn with
  | nil => rfl
  | append_singleton items item ih =>
    rw [grouped_concat, accumulate, Dict.get_set, ofKey_concat]
    by_cases same : key item = name
    · subst same
      have kept : ((grouped key empty step items).get (key item)).getD empty =
          (ofKey key items (key item)).foldl step empty := by
        rw [ih]
        split
        · rename_i none
          rw [none]
          rfl
        · rfl
      rw [if_pos rfl, if_pos rfl, if_neg (List.append_ne_nil_of_right_ne_nil _ (by simp)), kept,
        List.foldl_concat]
    · rw [if_neg (Ne.symm same), if_neg same, ih]

/-- Where each item replaces the group, the last one stays. -/
theorem get_grouped_last (value : β → σ) (items : List β) (name : String) :
    (grouped key empty (fun _ item => value item) items).get name =
      (ofKey key items name).getLast?.map value := by
  rw [get_grouped]
  induction ofKey key items name using List.reverseRecOn with
  | nil => rfl
  | append_singleton own item _ =>
    rw [if_neg (List.append_ne_nil_of_right_ne_nil _ (List.cons_ne_nil _ _)), List.foldl_concat,
      List.getLast?_concat]
    rfl

theorem nodup_grouped (items : List β) :
    ((grouped key empty step items).map Prod.fst).Nodup := by
  induction items using List.reverseRecOn with
  | nil => exact List.nodup_nil
  | append_singleton items item ih =>
    rw [grouped_concat]
    exact Dict.nodup_set ih _ _

/-- There is a group for each key that occurs. -/
theorem mem_keys_grouped {items : List β} {name : String} :
    name ∈ (grouped key empty step items).map Prod.fst ↔ ∃ item ∈ items, key item = name := by
  induction items using List.reverseRecOn with
  | nil => simp [grouped]
  | append_singleton items item ih =>
    rw [grouped_concat, accumulate, Dict.mem_keys_set, ih]
    simp only [List.mem_append, List.mem_singleton, or_and_right, exists_or, exists_eq_left,
      @eq_comm _ name]

/-- **The order of the items does not count**, as far as it does not count within a group. -/
theorem grouped_perm {τ : Type*} (seen : σ → τ)
    (within : ∀ {first second : List β}, first.Perm second →
      seen (first.foldl step empty) = seen (second.foldl step empty))
    {first second : List β} (perm : first.Perm second) :
    ((grouped key empty step first).map fun entry => (entry.1, seen entry.2)).Perm
      ((grouped key empty step second).map fun entry => (entry.1, seen entry.2)) := by
  have distinct : ∀ items, (((grouped key empty step items).map fun entry =>
      (entry.1, seen entry.2)).map Prod.fst).Nodup := by
    intro items
    rw [List.map_map]
    exact nodup_grouped key empty step items
  refine Dict.perm_of_get_eq (distinct first) (distinct second) fun name => ?_
  have own : (ofKey key first name).Perm (ofKey key second name) := perm.filter _
  have none : ofKey key first name = [] ↔ ofKey key second name = [] :=
    ⟨fun none => (none ▸ own).nil_eq.symm, fun none => (none ▸ own).eq_nil⟩
  rw [Dict.get_map, Dict.get_map, get_grouped, get_grouped, apply_ite (Option.map seen),
    apply_ite (Option.map seen), Option.map_some, Option.map_some, within own]
  exact if_congr none rfl rfl

/-- What stands in a group. -/
theorem eq_of_mem_grouped {items : List β} {entry : String × σ}
    (member : entry ∈ grouped key empty step items) :
    entry.2 = (ofKey key items entry.1).foldl step empty := by
  have found := Dict.get_of_mem (nodup_grouped key empty step items) member
  rw [get_grouped] at found
  split at found
  · cases found
  · exact (Option.some.inj found).symm

end Groups

/-! ### Amounts -/

section Amounts

variable [AddCommMonoid M]

/-- A write that adds an amount to what a key holds adds it to the whole. -/
theorem sum_set (weight : σ → M) {d : Dict σ} {key : String} {empty value : σ} {amount : M}
    (zero : weight empty = 0)
    (adds : weight value = weight ((d.get key).getD empty) + amount) :
    ((d.set key value).map fun entry => weight entry.2).sum =
      (d.map fun entry => weight entry.2).sum + amount := by
  induction d with
  | nil =>
    have none : weight value = weight empty + amount := adds
    simp [Dict.set, none, zero]
  | cons entry rest ih =>
    obtain ⟨name, old⟩ := entry
    rw [Dict.get_cons] at adds
    rw [Dict.set]
    by_cases here : name = key
    · rw [if_pos here.symm, Option.getD_some] at adds
      rw [if_pos here, List.map_cons, List.map_cons, List.sum_cons, List.sum_cons, adds,
        add_right_comm]
    · rw [if_neg (Ne.symm here)] at adds
      rw [if_neg here, List.map_cons, List.map_cons, List.sum_cons, List.sum_cons, ih adds,
        add_assoc]

/-- **Nothing is lost between the groups.** -/
theorem sum_grouped (key : β → String) (empty : σ) (step : σ → β → σ) (weight : σ → M)
    (amount : β → M) (zero : weight empty = 0)
    (adds : ∀ kept item, weight (step kept item) = weight kept + amount item) (items : List β) :
    ((grouped key empty step items).map fun entry => weight entry.2).sum =
      (items.map amount).sum := by
  induction items using List.reverseRecOn with
  | nil => rfl
  | append_singleton items item ih =>
    rw [grouped_concat, accumulate, sum_set weight zero (adds _ item), ih, List.map_append,
      List.sum_append, List.map_singleton, List.sum_singleton]

variable (key : β → String) (amount : β → M)

/-- The amounts of each key. -/
def tally : List β → Dict M := grouped key 0 fun sum item => sum + amount item

theorem foldl_amount (items : List β) (start : M) :
    items.foldl (fun sum item => sum + amount item) start = start + (items.map amount).sum := by
  induction items generalizing start with
  | nil => exact (add_zero start).symm
  | cons item rest ih => rw [List.foldl_cons, ih, List.map_cons, List.sum_cons, add_assoc]

/-- **Each key holds the sum of its amounts.** -/
theorem get_tally (items : List β) (name : String) :
    (tally key amount items).get name =
      if ofKey key items name = [] then none
      else some ((ofKey key items name).map amount).sum := by
  rw [tally, get_grouped, foldl_amount, zero_add]

theorem nodup_tally (items : List β) : ((tally key amount items).map Prod.fst).Nodup :=
  nodup_grouped key 0 _ items

theorem sum_tally (items : List β) :
    ((tally key amount items).map Prod.snd).sum = (items.map amount).sum :=
  sum_grouped key 0 _ id amount rfl (fun _ _ => rfl) items

/-- The order of the amounts does not count. -/
theorem tally_perm {first second : List β} (perm : first.Perm second) :
    (tally key amount first).Perm (tally key amount second) := by
  have within : ∀ {first second : List β}, first.Perm second →
      id (first.foldl (fun sum item => sum + amount item) 0) =
        id (second.foldl (fun sum item => sum + amount item) 0) := fun perm => by
    rw [foldl_amount, foldl_amount, (perm.map amount).sum_eq]
  have whole := grouped_perm key 0 (fun sum item => sum + amount item) id within perm
  rw [List.map_id'', List.map_id''] at whole
  · exact whole
  · exact fun _ => rfl
  · exact fun _ => rfl

/-- The classes of a partition hold all of the amounts. -/
theorem sum_filter_eq {κ : Type*} [Fintype κ] [DecidableEq κ] (classOf : β → κ)
    (items : List β) :
    ∑ c, ((items.filter fun item => classOf item = c).map amount).sum =
      (items.map amount).sum := by
  induction items with
  | nil => exact Finset.sum_const_zero
  | cons item rest ih =>
    have split : ∀ c, (((item :: rest).filter fun item => classOf item = c).map amount).sum =
        (if classOf item = c then amount item else 0) +
          ((rest.filter fun item => classOf item = c).map amount).sum := by
      intro c
      by_cases here : classOf item = c
      · rw [List.filter_cons, if_pos (decide_eq_true here), List.map_cons, List.sum_cons,
          if_pos here]
      · rw [List.filter_cons, if_neg (by simpa using here), if_neg here, zero_add]
    rw [Finset.sum_congr rfl fun c _ => split c, Finset.sum_add_distrib, ih, List.map_cons,
      List.sum_cons, Finset.sum_ite_eq, if_pos (Finset.mem_univ _)]

end Amounts

end ScreenSync.Foundation

/-
**A rebalance among other calls.**

`rebalance_budgets` reads all rows with one `SELECT` and later writes totals it has computed from
them, while `record_usage` and `grant_extra_time` add to the rows as they are. Any number of such
additions are committed before, between and after the two steps of one rebalance; the cache plays
no part here.

* `performWrite` — the calls one after another, as the functions do them (`recordUsage_db`,
  `grantExtraTime_db`, `rebalanceBudgets_db`).
* `stepRebalance` — the same with the two steps of the rebalance apart.
* `commit_amounts` — a rebalance that commits late leaves what one at its `SELECT` would have left
  with the additions after it, except that the grants to rows it writes a total for are lost.
* `run_explained` — so every run looks like one of its orders without the lost grants.
* `rebalance_serializable` — where no grant is lost, the calls might have run one after another.
* `grant_lost` — a grant that a rebalance overwrites.
-/

import Mathlib.Data.List.Permutation
import ScreenSync.Decision.Coherence

namespace ScreenSync.Decision

open ScreenSync.Foundation ScreenSync.Shared

/-! ### Additions -/

/-- The commit of a `record_usage` or of a `grant_extra_time`. -/
structure Addition where
  increment : Increment
  key : BudgetKey

def Addition.commit (addition : Addition) (db : Database) : Database :=
  addition.increment.commit addition.key db

def commitAll (db : Database) (additions : List Addition) : Database :=
  additions.foldl (fun db addition => addition.commit db) db

/-- What an addition makes of the row of a key. -/
def Addition.addTo (key : BudgetKey) (b : Budget) (addition : Addition) : Budget :=
  if addition.key = key then addition.increment.values b else b

def addAll (key : BudgetKey) (b : Budget) (additions : List Addition) : Budget :=
  additions.foldl (Addition.addTo key) b

/-- The total and the used seconds of a row. -/
def amounts (b : Budget) : Int × Int := (b.totalBudgetSeconds, b.usedSeconds)

/-- The total and the used seconds under a key. -/
def amountsOf (db : Database) (key : BudgetKey) : Option (Int × Int) :=
  (db.budgets.find key).map amounts

theorem Addition.commit_find (addition : Addition) (db : Database) (key : BudgetKey) :
    (addition.commit db).budgets.find key =
      (db.budgets.find key).map fun b => addition.addTo key b := by
  by_cases same : addition.key = key
  · subst same
    rw [Addition.commit, Increment.commit, Database.updateBudgets_find]
    cases found : db.budgets.find addition.key with
    | none => rfl
    | some b =>
      obtain ⟨-, here⟩ := Table.find_eq_some.mp found
      simp [Addition.addTo, ← here, Budget.key]
  · rw [Addition.commit, addition.increment.commit_find_of_ne (Ne.symm same)]
    simp [Addition.addTo, same]

theorem commitAll_find (db : Database) (additions : List Addition) (key : BudgetKey) :
    (commitAll db additions).budgets.find key =
      (db.budgets.find key).map fun b => addAll key b additions := by
  induction additions generalizing db with
  | nil => exact Option.map_id'.symm ▸ rfl
  | cons addition later ih =>
    rw [commitAll, List.foldl_cons, ← commitAll, ih, addition.commit_find, Option.map_map]
    rfl

theorem addAll_id (key : BudgetKey) (b : Budget) (additions : List Addition) :
    (addAll key b additions).id = b.id := by
  induction additions generalizing b with
  | nil => rfl
  | cons addition later ih =>
    rw [addAll, List.foldl_cons, ← addAll, ih, Addition.addTo]
    split
    · exact (addition.increment.values_keeps b).1
    · rfl

/-- Additions to equal amounts give equal amounts. -/
theorem addAll_amounts_congr {first second : Budget} (same : amounts first = amounts second)
    (key : BudgetKey) (additions : List Addition) :
    amounts (addAll key first additions) = amounts (addAll key second additions) := by
  induction additions generalizing first second with
  | nil => exact same
  | cons addition later ih =>
    refine ih ?_
    obtain ⟨total, used⟩ := Prod.mk.inj same
    unfold Addition.addTo
    split
    · cases addition.increment <;> simp only [amounts, Increment.values, total, used]
    · exact same

/-! ### The steps of the calls -/

/-- An addition that is committed, or a step of the rebalance. -/
inductive BudgetWrite
  | add (addition : Addition)
  | rebalance

/-- The additions of a run. -/
def additionsOf (writes : List BudgetWrite) : List Addition :=
  writes.filterMap fun
    | .add addition => some addition
    | .rebalance => none

/-- The `SELECT` of a rebalance. -/
def selectJob (userId : UserId) (targetDate : Date) (now : UtcTime) (db : Database) :
    RebalanceJob where
  rows := db.budgetRows userId targetDate
  targetDate := targetDate
  now := now
  distinct := budgetRows_ids_nodup db userId targetDate

/-- How far the rebalance has come. -/
inductive RebalanceStage
  | ready
  | selected (job : RebalanceJob)
  | finished

/-- The tables and the rebalance. -/
structure RebalanceRace where
  db : Database
  stage : RebalanceStage

section Calls

variable (userId : UserId) (targetDate : Date) (now : UtcTime)

/-- The calls one after another. -/
def performWrite (db : Database) : BudgetWrite → Database
  | .add addition => addition.commit db
  | .rebalance => (selectJob userId targetDate now db).commit db

/-- An addition, or the next step of the rebalance: its `SELECT`, then its `UPDATE`s with their
commit. -/
def stepRebalance (race : RebalanceRace) : BudgetWrite → RebalanceRace
  | .add addition => { race with db := addition.commit race.db }
  | .rebalance =>
    match race.stage with
    | .ready => { race with stage := .selected (selectJob userId targetDate now race.db) }
    | .selected job => { db := job.commit race.db, stage := .finished }
    | .finished => race

variable {userId targetDate now}

theorem recordUsage_db (store : Store) (deviceId : DeviceId) (seconds : Int) (date : Date) :
    (recordUsage store deviceId seconds date).2.db =
      performWrite userId targetDate now store.db (.add ⟨.usage seconds, (deviceId, date)⟩) := by
  rw [recordUsage, getBudget_db]
  rfl

theorem grantExtraTime_db (store : Store) (deviceId : DeviceId) (extraSeconds : Int) (date : Date) :
    (grantExtraTime store deviceId extraSeconds date).2.db =
      performWrite userId targetDate now store.db
        (.add ⟨.extra extraSeconds, (deviceId, date)⟩) := by
  rw [grantExtraTime, getBudget_db]
  rfl

theorem rebalanceBudgets_db (store : Store) :
    (rebalanceBudgets store userId targetDate now).2.db =
      performWrite userId targetDate now store.db .rebalance := by
  have loop := foldl_rebalanceRow (selectJob userId targetDate now store.db)
    (store.db.budgetRows userId targetDate) ([], store)
  rw [rebalanceBudgets]
  split
  · rename_i noRows
    simp only [performWrite, RebalanceJob.commit, selectJob, noRows, List.foldl_nil]
  · exact congrArg Store.db loop

end Calls

/-! ### What a late commit loses -/

/-- The rebalance writes a total for the row of this key. -/
def RebalanceJob.Overwrites (job : RebalanceJob) (key : BudgetKey) : Prop :=
  ∃ row ∈ job.rows, row.1.key = key ∧ ¬ Exhausted row.1

instance (job : RebalanceJob) (key : BudgetKey) : Decidable (job.Overwrites key) :=
  inferInstanceAs (Decidable (∃ row ∈ job.rows, row.1.key = key ∧ ¬ Exhausted row.1))

/-- What an increment adds to the total. -/
def Increment.extraSeconds : Increment → Int
  | .usage _ => 0
  | .extra extraSeconds => extraSeconds

/-- The addition is a grant to such a row. -/
def RebalanceJob.Loses (job : RebalanceJob) (addition : Addition) : Prop :=
  addition.increment.extraSeconds ≠ 0 ∧ job.Overwrites addition.key

instance (job : RebalanceJob) (addition : Addition) : Decidable (job.Loses addition) :=
  inferInstanceAs (Decidable (_ ∧ _))

/-- The additions that are not lost. -/
def RebalanceJob.kept (job : RebalanceJob) (additions : List Addition) : List Addition :=
  additions.filter fun addition => ¬ job.Loses addition

variable {job : RebalanceJob} {key : BudgetKey}

theorem RebalanceJob.kept_of_loses {addition : Addition} (lost : job.Loses addition)
    (later : List Addition) : job.kept (addition :: later) = job.kept later :=
  List.filter_cons_of_neg (by simpa using lost)

theorem RebalanceJob.kept_of_not_loses {addition : Addition} (spared : ¬ job.Loses addition)
    (later : List Addition) : job.kept (addition :: later) = addition :: job.kept later :=
  List.filter_cons_of_pos (by simpa using spared)

/-- Where nothing is lost, everything is kept. -/
theorem RebalanceJob.kept_eq_self {additions : List Addition}
    (spared : ∀ addition ∈ additions, ¬ job.Loses addition) : job.kept additions = additions :=
  List.filter_eq_self.mpr fun addition member => by simpa using spared addition member

theorem addTo_of_ne {addition : Addition} (apart : addition.key ≠ key) (b : Budget) :
    addition.addTo key b = b :=
  if_neg apart

/-- On a row that is not overwritten, nothing is lost. -/
theorem addAll_kept_of_not_overwrites (spared : ¬ job.Overwrites key) (b : Budget)
    (additions : List Addition) : addAll key b (job.kept additions) = addAll key b additions := by
  induction additions generalizing b with
  | nil => rfl
  | cons addition later ih =>
    by_cases lost : job.Loses addition
    · -- the lost grant is for another row
      have apart : addition.key ≠ key := fun same => spared (same ▸ lost.2)
      rw [RebalanceJob.kept_of_loses lost, ih, addAll, addAll, List.foldl_cons, addTo_of_ne apart]
    · rw [RebalanceJob.kept_of_not_loses lost]
      exact ih _

/-- A grant leaves the used seconds alone. -/
theorem addTo_used_of_grant {addition : Addition} (grant : addition.increment.extraSeconds ≠ 0)
    (b : Budget) : (addition.addTo key b).usedSeconds = b.usedSeconds := by
  unfold Addition.addTo
  split
  · cases increment : addition.increment with
    | usage seconds => exact absurd (by rw [increment]; rfl) grant
    | extra extraSeconds => rfl
  · rfl

/-- Anything else leaves the total alone. -/
theorem addTo_total_of_no_grant {addition : Addition}
    (noGrant : addition.key = key → addition.increment.extraSeconds = 0) (b : Budget) :
    (addition.addTo key b).totalBudgetSeconds = b.totalBudgetSeconds := by
  unfold Addition.addTo
  split
  · rename_i same
    have nothing := noGrant same
    cases increment : addition.increment with
    | usage seconds => rfl
    | extra extraSeconds =>
      rw [increment] at nothing
      show b.totalBudgetSeconds + extraSeconds = b.totalBudgetSeconds
      rw [show extraSeconds = 0 from nothing, add_zero]
  · rfl

theorem addTo_used_congr {first second : Budget} (used : first.usedSeconds = second.usedSeconds)
    (addition : Addition) :
    (addition.addTo key first).usedSeconds = (addition.addTo key second).usedSeconds := by
  unfold Addition.addTo
  split
  · cases addition.increment <;> simp only [Increment.values, used]
  · exact used

/-- On an overwritten row the used seconds are added up and the total stays. -/
theorem addAll_kept_of_overwrites (overwritten : job.Overwrites key) {first second : Budget}
    (used : first.usedSeconds = second.usedSeconds) (additions : List Addition) :
    amounts (addAll key first (job.kept additions)) =
      (first.totalBudgetSeconds, (addAll key second additions).usedSeconds) := by
  induction additions generalizing first second with
  | nil => exact congrArg (Prod.mk _) used
  | cons addition later ih =>
    by_cases lost : job.Loses addition
    · rw [RebalanceJob.kept_of_loses lost]
      exact ih (used.trans (addTo_used_of_grant lost.1 second).symm)
    · rw [RebalanceJob.kept_of_not_loses lost]
      have noGrant : addition.key = key → addition.increment.extraSeconds = 0 := fun same =>
        not_not.mp fun grant => lost ⟨grant, same ▸ overwritten⟩
      refine (ih (addTo_used_congr used addition)).trans ?_
      rw [addTo_total_of_no_grant noGrant]
      rfl

/-- **A late commit**: the rows that a job of this database leaves behind after some additions are,
in their amounts, those of a commit before the additions that are not lost. -/
theorem commit_amounts (userId : UserId) (targetDate : Date) (now : UtcTime) (db : Database)
    (additions : List Addition) (key : BudgetKey) :
    amountsOf ((selectJob userId targetDate now db).commit (commitAll db additions)) key =
      amountsOf (commitAll ((selectJob userId targetDate now db).commit db)
        ((selectJob userId targetDate now db).kept additions)) key := by
  generalize read : selectJob userId targetDate now db = job
  have listed : ∀ row ∈ job.rows, row.1 ∈ db.budgets.rows := by
    rw [← read]
    exact fun row member => (Database.mem_budgetRows.mp member).1
  simp only [amountsOf, commitAll_find, RebalanceJob.commit_find, Option.map_map]
  refine Option.map_congr fun b member => ?_
  obtain ⟨inside, rfl⟩ := Table.find_eq_some.mp (Option.mem_def.mp member)
  simp only [Function.comp_apply]
  by_cases missed : ∀ row ∈ job.rows, row.1.id ≠ b.id
  · have spared : ¬ job.Overwrites b.key := by
      rintro ⟨row, there, same, -⟩
      exact missed row there (congrArg Budget.id (db.budgets.eq_of_key_eq (listed row there) inside
        same))
    have same : rebalanced job.rows job.now b = b := assign_of_forall_ne missed
    have later : rebalanced job.rows job.now (addAll b.key b additions) =
        addAll b.key b additions :=
      assign_of_forall_ne fun row there => by rw [addAll_id]; exact missed row there
    rw [same, later, addAll_kept_of_not_overwrites spared]
  · push Not at missed
    obtain ⟨row, there, aimed⟩ := missed
    obtain rfl : row.1 = b := db.budget_eq_of_id (listed row there) inside aimed
    have now : rebalanced job.rows job.now row.1 = job.values row row.1 :=
      assign_of_mem job.distinct there rfl
    have later : rebalanced job.rows job.now (addAll row.1.key row.1 additions) =
        job.values row (addAll row.1.key row.1 additions) :=
      assign_of_mem job.distinct there (addAll_id ..).symm
    rw [now, later]
    by_cases exhausted : Exhausted row.1
    · have spared : ¬ job.Overwrites row.1.key := by
        rintro ⟨other, member, same, active⟩
        rw [db.budgets.eq_of_key_eq (listed other member) inside same] at active
        exact active exhausted
      have stamped : ∀ stored, amounts (job.values row stored) = amounts stored := fun stored => by
        rw [RebalanceJob.values, rebalanceValues, if_pos exhausted]
        rfl
      rw [stamped, addAll_amounts_congr (stamped row.1), addAll_kept_of_not_overwrites spared]
    · have overwritten : job.Overwrites row.1.key := ⟨row, there, rfl, exhausted⟩
      have written : ∀ stored, job.values row stored = { stored with
          totalBudgetSeconds := newTotal (totalPool job.rows) (totalPriority job.rows) row
          rebalancedAt := some job.now } := fun stored => by
        rw [RebalanceJob.values, rebalanceValues, if_neg exhausted]
      have used : (job.values row row.1).usedSeconds = row.1.usedSeconds := by rw [written]
      rw [addAll_kept_of_overwrites overwritten used, written, written]
      rfl

/-! ### Runs -/

section Runs

variable (userId : UserId) (targetDate : Date) (now : UtcTime)

/-- Before the rebalance has started. -/
def RebalanceRace.start (db : Database) : RebalanceRace := ⟨db, .ready⟩

/-- The step does not commit a grant that the rebalance under way is going to overwrite. -/
def Spares (race : RebalanceRace) (write : BudgetWrite) : Prop :=
  ∀ job addition, race.stage = .selected job → write = .add addition → ¬ job.Loses addition

/-- The tables after the additions before the `SELECT`, then those up to the commit, then the later
ones, if the rebalance had been committed at once and without what it loses. -/
def explanation (db : Database) (before between after : List Addition) : Database :=
  let read := commitAll db before
  let job := selectJob userId targetDate now read
  commitAll (commitAll (job.commit read) (job.kept between)) after

/-- What the run so far has led to. -/
def Explained (db : Database) (past : List BudgetWrite) (race : RebalanceRace) : Prop :=
  match race.stage with
  | .ready => race.db = commitAll db (additionsOf past)
  | .selected job => ∃ before between, additionsOf past = before ++ between ∧
      job = selectJob userId targetDate now (commitAll db before) ∧
      race.db = commitAll (commitAll db before) between ∧
      (Meets (stepRebalance userId targetDate now) Spares (.start db) past →
        ∀ addition ∈ between, ¬ job.Loses addition)
  | .finished => ∃ before between after, additionsOf past = before ++ between ++ after ∧
      (∀ key, amountsOf race.db key =
        amountsOf (explanation userId targetDate now db before between after) key) ∧
      (Meets (stepRebalance userId targetDate now) Spares (.start db) past →
        (selectJob userId targetDate now (commitAll db before)).kept between = between)

variable {userId targetDate now}

theorem spares_rebalance (race : RebalanceRace) : Spares race .rebalance :=
  fun _ _ _ other => (by cases other)

/-- Nothing that is charged is lost. -/
theorem spares_usage (race : RebalanceRace) (seconds : Int) (key : BudgetKey) :
    Spares race (.add ⟨.usage seconds, key⟩) := by
  intro job addition _ same lost
  cases same
  exact lost.1 rfl

theorem additionsOf_add (past : List BudgetWrite) (addition : Addition) :
    additionsOf (past ++ [.add addition]) = additionsOf past ++ [addition] := by
  simp [additionsOf]

theorem additionsOf_rebalance (past : List BudgetWrite) :
    additionsOf (past ++ [.rebalance]) = additionsOf past := by
  simp [additionsOf]

theorem commitAll_concat (db : Database) (additions : List Addition) (addition : Addition) :
    commitAll db (additions ++ [addition]) = addition.commit (commitAll db additions) :=
  List.foldl_concat ..

/-- Tables of the same amounts have the same amounts after an addition. -/
theorem commit_amounts_congr {first second : Database}
    (same : ∀ key, amountsOf first key = amountsOf second key) (addition : Addition)
    (key : BudgetKey) :
    amountsOf (addition.commit first) key = amountsOf (addition.commit second) key := by
  have here := same key
  simp only [amountsOf, addition.commit_find, Option.map_map] at here ⊢
  cases inFirst : first.budgets.find key with
  | none =>
    cases inSecond : second.budgets.find key with
    | none => rfl
    | some b =>
      rw [inFirst, inSecond] at here
      cases here
  | some b =>
    cases inSecond : second.budgets.find key with
    | none =>
      rw [inFirst, inSecond] at here
      cases here
    | some c =>
      rw [inFirst, inSecond] at here
      exact congrArg some (addAll_amounts_congr (Option.some.inj here) key [addition])

/-- The rule for an addition. -/
theorem Explained.add {db : Database} {past : List BudgetWrite} {race : RebalanceRace}
    (explained : Explained userId targetDate now db past race)
    (led : run (stepRebalance userId targetDate now) (.start db) past = race)
    (addition : Addition) :
    Explained userId targetDate now db (past ++ [.add addition])
      (stepRebalance userId targetDate now race (.add addition)) := by
  obtain ⟨tables, stage⟩ := race
  cases stage with
  | ready =>
    have before : tables = commitAll db (additionsOf past) := explained
    show addition.commit tables = commitAll db (additionsOf (past ++ [.add addition]))
    rw [additionsOf_add, commitAll_concat, ← before]
  | selected job =>
    obtain ⟨before, between, split, read, current, spared⟩ := explained
    replace current : tables = commitAll (commitAll db before) between := current
    refine ⟨before, between ++ [addition], ?_, read, ?_, fun meets => ?_⟩
    · rw [additionsOf_add, split, List.append_assoc]
    · rw [commitAll_concat, ← current]
      rfl
    · obtain ⟨earlier, last⟩ := meets_concat.mp meets
      rw [led] at last
      refine List.forall_mem_append.mpr ⟨spared earlier, ?_⟩
      simpa using last job addition rfl rfl
  | finished =>
    obtain ⟨before, between, after, split, same, spared⟩ := explained
    refine ⟨before, between, after ++ [addition], ?_, fun key => ?_, fun meets => ?_⟩
    · rw [additionsOf_add, split, List.append_assoc]
    · refine (commit_amounts_congr same addition key).trans ?_
      simp only [explanation, commitAll_concat]
    · exact spared (meets_concat.mp meets).1

/-- The rule for a step of the rebalance. -/
theorem Explained.rebalance {db : Database} {past : List BudgetWrite} {race : RebalanceRace}
    (explained : Explained userId targetDate now db past race) :
    Explained userId targetDate now db (past ++ [.rebalance])
      (stepRebalance userId targetDate now race .rebalance) := by
  obtain ⟨tables, stage⟩ := race
  cases stage with
  | ready =>
    have before : tables = commitAll db (additionsOf past) := explained
    refine ⟨additionsOf past, [], ?_, ?_, before, fun _ _ member => (by cases member)⟩
    · rw [additionsOf_rebalance, List.append_nil]
    · rw [before]
  | selected job =>
    obtain ⟨before, between, split, read, current, spared⟩ := explained
    replace current : tables = commitAll (commitAll db before) between := current
    refine ⟨before, between, [], ?_, fun key => ?_, fun meets => ?_⟩
    · rw [additionsOf_rebalance, split, List.append_nil]
    · have late := commit_amounts userId targetDate now (commitAll db before) between key
      rw [← read, ← current] at late
      rw [explanation, ← read]
      exact late
    · rw [← read]
      exact RebalanceJob.kept_eq_self (spared (meets_concat.mp meets).1)
  | finished =>
    obtain ⟨before, between, after, split, same, spared⟩ := explained
    refine ⟨before, between, after, ?_, same, fun meets => ?_⟩
    · rw [additionsOf_rebalance, split]
    · exact spared (meets_concat.mp meets).1

/-- **The run rule.** -/
theorem run_explained (db : Database) (schedule : List BudgetWrite) :
    Explained userId targetDate now db schedule
      (run (stepRebalance userId targetDate now) (.start db) schedule) := by
  have start : Explained userId targetDate now db [] (.start db) := rfl
  have kept : ∀ past write,
      Explained userId targetDate now db past
        (run (stepRebalance userId targetDate now) (.start db) past) →
      Explained userId targetDate now db (past ++ [write]) (stepRebalance userId targetDate now
        (run (stepRebalance userId targetDate now) (.start db) past) write) := by
    intro past write explained
    cases write with
    | add addition => exact explained.add rfl addition
    | rebalance => exact explained.rebalance
  exact run_history _ start kept schedule

theorem run_performWrite_add (db : Database) (additions : List Addition) :
    run (performWrite userId targetDate now) db (additions.map .add) = commitAll db additions :=
  List.foldl_map ..

end Runs

/-- **A rebalance among additions**: if none of the grants that are committed between its `SELECT`
and its commit is for a row it writes a total for, then the totals and the used seconds are those of
running the calls one after another in some order. -/
theorem rebalance_serializable (userId : UserId) (targetDate : Date) (now : UtcTime) (db : Database)
    (schedule : List BudgetWrite)
    (spared : Meets (stepRebalance userId targetDate now) Spares (.start db) schedule)
    (finished :
      (run (stepRebalance userId targetDate now) (.start db) schedule).stage = .finished) :
    ∃ order : List BudgetWrite, order.Perm (.rebalance :: (additionsOf schedule).map .add) ∧
      ∀ key, amountsOf (run (stepRebalance userId targetDate now) (.start db) schedule).db key =
        amountsOf (run (performWrite userId targetDate now) db order) key := by
  have explained : Explained userId targetDate now db schedule
      (run (stepRebalance userId targetDate now) (.start db) schedule) := run_explained db schedule
  rw [Explained, finished] at explained
  obtain ⟨before, between, after, split, same, nothingLost⟩ := explained
  refine ⟨before.map .add ++ .rebalance :: (between ++ after).map .add, ?_, fun key => ?_⟩
  · have calls : (additionsOf schedule).map BudgetWrite.add =
        before.map .add ++ (between ++ after).map .add := by
      rw [split, List.append_assoc, List.map_append]
    rw [calls]
    exact List.perm_middle
  · rw [same key, run_append, run_performWrite_add, run_cons, run_performWrite_add, explanation,
      nothingLost spared]
    simp only [commitAll, List.foldl_append, performWrite]

/-- The last second is charged between the two steps of a rebalance, and a grant comes later. -/
def chargeBetween : List BudgetWrite :=
  [.rebalance, .add ⟨.usage 1, tabletRow.key⟩, .rebalance, .add ⟨.extra 600, tabletRow.key⟩]

theorem rebalance_serializable_chargeBetween :
    ∃ order : List BudgetWrite,
      order.Perm (.rebalance :: (additionsOf chargeBetween).map .add) ∧
      ∀ key, amountsOf (run (stepRebalance "family" someDay (someTime 12 0)) (.start tabletDb)
          chargeBetween).db key =
        amountsOf (run (performWrite "family" someDay (someTime 12 0)) tabletDb order) key :=
  rebalance_serializable "family" someDay (someTime 12 0) tabletDb chargeBetween
    (by
      refine meets_cons.mpr ⟨spares_rebalance _, meets_cons.mpr ⟨spares_usage _ 1 _, ?_⟩⟩
      refine meets_cons.mpr ⟨spares_rebalance _, meets_cons.mpr ⟨fun _ _ none => ?_, .nil _ _⟩⟩
      cases none)
    rfl

/-- A grant of ten minutes between the two steps of a rebalance. -/
def grantBetween : List BudgetWrite := [.rebalance, .add ⟨.extra 600, tabletRow.key⟩, .rebalance]

/-- The tablet is left with the second it had, whichever call is thought to have run first. -/
theorem grant_lost :
    (run (stepRebalance "family" someDay (someTime 12 0)) (.start tabletDb) grantBetween).stage =
        .finished ∧
      ¬ ∃ order : List BudgetWrite,
        order.Perm (.rebalance :: (additionsOf grantBetween).map .add) ∧
        ∀ key, amountsOf (run (stepRebalance "family" someDay (someTime 12 0)) (.start tabletDb)
            grantBetween).db key =
          amountsOf (run (performWrite "family" someDay (someTime 12 0)) tabletDb order) key := by
  refine ⟨rfl, ?_⟩
  rintro ⟨order, perm, same⟩
  have raced : amountsOf (run (stepRebalance "family" someDay (someTime 12 0)) (.start tabletDb)
      grantBetween).db tabletRow.key = some (7200, 7199) := by decide +kernel
  have orders : order = [.rebalance, .add ⟨.extra 600, tabletRow.key⟩] ∨
      order = [.add ⟨.extra 600, tabletRow.key⟩, .rebalance] :=
    List.perm_pair.mp perm
  have granted : amountsOf (run (performWrite "family" someDay (someTime 12 0)) tabletDb order)
      tabletRow.key = some (7800, 7199) := by
    obtain rfl | rfl := orders <;> decide +kernel
  cases raced.symm.trans ((same tabletRow.key).trans granted)

end ScreenSync.Decision

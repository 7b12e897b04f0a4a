/-
**The round number of the global model.**

The number stored with the global weights is that of the round that was aggregated last. Any round
can be aggregated at any time, and again when its quorum has refilled.

* `version_iff` — the round numbers that `get_global_model_weights` returns never fall, and name one
  set of weights each, exactly if the rounds are aggregated in the order of their numbers.
* `late_and_repeated_rounds` — a late round lowers the number, and a round that is aggregated twice
  gives its number to two sets of weights.
-/

import Mathlib
import ScreenSync.Fl.Failure

namespace ScreenSync.Fl

open ScreenSync.Foundation ScreenSync.Shared

variable {Id K : Type} [DivisionRing K]

/-! ### What is returned -/

/-- A round number read as a number. -/
def roundValue : Json → Int
  | .int value => value
  | .str text => text.toInt?.getD 0
  | _ => 0

/-- The round number of a reply. -/
def replyRound {Bytes : Type} (reply : Except PyError (ModelReply Bytes)) : Int :=
  match reply with
  | .ok reply => roundValue reply.roundNumber
  | .error _ => 0

/-- The weights of a reply. -/
def replyWeights {Bytes : Type} (reply : Except PyError (ModelReply Bytes)) : Option Bytes :=
  match reply with
  | .ok reply => reply.weights
  | .error _ => none

/-- The round number of the first reply is not above that of the second, and if they are the same,
so are the weights. -/
def Precedes {Bytes : Type} (first second : Except PyError (ModelReply Bytes)) : Prop :=
  replyRound first ≤ replyRound second ∧
    (replyRound first = replyRound second → replyWeights first = replyWeights second)

theorem precedes_refl {Bytes : Type} (reply : Except PyError (ModelReply Bytes)) :
    Precedes reply reply :=
  ⟨le_rfl, fun _ => rfl⟩

theorem Precedes.trans {Bytes : Type} {first second third : Except PyError (ModelReply Bytes)}
    (early : Precedes first second) (late : Precedes second third) : Precedes first third := by
  refine ⟨early.1.trans late.1, fun same => ?_⟩
  have below : replyRound second ≤ replyRound first := same ▸ late.1
  have one : replyRound first = replyRound second := le_antisymm early.1 below
  exact (early.2 one).trans (late.2 (one.symm.trans same))

/-! ### What is stored -/

/-- A model is stored with the number of its round. -/
def Numbered {Bytes : Type} (redis : ModelKeys Bytes) : Prop :=
  ∀ raw, redis.weights = some raw → ∃ roundNumber : Int, redis.round = some roundNumber.repr

/-- The number of the model there is, and zero if there is none. -/
def currentRound {Bytes : Type} (redis : ModelKeys Bytes) : Int :=
  match redis.weights, redis.round with
  | some _, some text => text.toInt?.getD 0
  | _, _ => 0

theorem repr_ne_empty (value : Int) : value.repr ≠ "" := by
  cases value with
  | ofNat value => exact Nat.repr_ne_empty
  | negSucc value =>
    show "-" ++ _ ≠ ""
    simp

variable {npy : NpyFormat K} {state : FlState Id npy.Bytes}

/-- **What `get_global_model_weights` returns.** -/
theorem get_reply (loadable : Loadable npy state) (numbered : Numbered state.redis) :
    replyRound (getGlobalModelWeights npy state.redis) = currentRound state.redis ∧
      replyWeights (getGlobalModelWeights npy state.redis) =
        (globalModel npy state.redis).map npy.save := by
  unfold getGlobalModelWeights currentRound globalModel
  cases found : state.redis.weights with
  | none => exact ⟨rfl, rfl⟩
  | some raw =>
    obtain ⟨roundNumber, stored⟩ := numbered raw found
    rw [stored]
    simp only [loadable.weights raw found, bind, Except.bind, repr_ne_empty, if_false]
    exact ⟨rfl, rfl⟩

/-! ### One call -/

theorem save_injective : Function.Injective npy.save := by
  intro first second same
  exact Option.some.inj ((npy.load_save first).symm.trans
    ((congrArg npy.load same).trans (npy.load_save second)))

/-- What an aggregation that succeeds leaves in Redis. -/
theorem currentRound_saved (raw : npy.Bytes) (roundNumber : Int) :
    currentRound ⟨some raw, some roundNumber.repr⟩ = roundNumber := by
  show roundNumber.repr.toInt?.getD 0 = roundNumber
  rw [Int.toInt?_repr, Option.getD_some]

theorem numbered_serve (loadable : Loadable npy state) (numbered : Numbered state.redis)
    (call : FlCall Id npy) : Numbered (serve npy state call).redis := by
  obtain ⟨op, order⟩ := call
  cases op with
  | store submission => exact numbered
  | aggregate roundNumber =>
    by_cases aggregated : IsAggregated (replyOf npy state (.aggregate roundNumber, order))
    · obtain ⟨shape, newWeights, -, -, served⟩ := serve_of_aggregated loadable aggregated
      rw [served]
      exact fun raw _ => ⟨roundNumber, rfl⟩
    · rw [serve_of_not_aggregated loadable aggregated]
      exact numbered

/-- An aggregation that goes ahead is of a round after that of the model there is, or of the same
one, with a mean that leaves the model as it is. -/
def Advances (npy : NpyFormat K) (state : FlState Id npy.Bytes) (call : FlCall Id npy) : Prop :=
  ∀ roundNumber shape, call.1 = .aggregate roundNumber →
    Proceeds npy state roundNumber shape →
      currentRound state.redis < roundNumber ∨
        (currentRound state.redis = roundNumber ∧
          ∃ weights, globalModel npy state.redis = some weights ∧
            weights.add (.averaged shape (deltasOf npy state roundNumber)) = some weights)

/-- **When the reply before a call precedes the one after it.** -/
theorem precedes_serve_iff (loadable : Loadable npy state) (numbered : Numbered state.redis)
    (call : FlCall Id npy) :
    Precedes (getGlobalModelWeights npy state.redis)
        (getGlobalModelWeights npy (serve npy state call).redis) ↔ Advances npy state call := by
  obtain ⟨op, order⟩ := call
  cases op with
  | store submission => exact ⟨fun _ => nofun, fun _ => precedes_refl _⟩
  | aggregate roundNumber =>
    by_cases aggregated : IsAggregated (replyOf npy state (.aggregate roundNumber, order))
    · have before := get_reply loadable numbered
      have after := get_reply (loadable_serve loadable (.aggregate roundNumber, order))
        (numbered_serve loadable numbered (.aggregate roundNumber, order))
      obtain ⟨shape, newWeights, proceeds, added, served⟩ := serve_of_aggregated loadable aggregated
      rw [served, currentRound_saved] at after
      rw [served, Precedes, before.1, before.2, after.1, after.2]
      have saved : (globalModel npy ⟨some (npy.save newWeights), some roundNumber.repr⟩).map
          npy.save = some (npy.save newWeights) :=
        congrArg (fun a => some (npy.save a)) (decode_save newWeights)
      rw [saved]
      constructor
      · rintro ⟨below, same⟩ other mine own here
        cases own
        cases shape_unique proceeds.quorum proceeds.same here.same
        refine below.lt_or_eq.imp_right fun equal => ⟨equal, ?_⟩
        obtain ⟨weights, found, saved⟩ := Option.map_eq_some_iff.mp (same equal)
        rw [found, Option.getD_some, ← save_injective saved] at added
        exact ⟨weights, found, added⟩
      · intro advances
        rcases advances roundNumber shape rfl proceeds with later | ⟨equal, weights, found, still⟩
        · exact ⟨later.le, fun equal => absurd equal later.ne⟩
        · refine ⟨equal.le, fun _ => ?_⟩
          rw [found, Option.getD_some, still] at added
          cases added
          rw [found]
          rfl
    · rw [serve_of_not_aggregated loadable aggregated]
      refine ⟨fun _ other shape same proceeds => ?_, fun _ => precedes_refl _⟩
      cases same
      exact absurd ((isAggregated_iff loadable order).mpr ⟨shape, proceeds⟩) aggregated

/-! ### Whole runs -/

/-- What there is can be returned, with its number. -/
def Returns (npy : NpyFormat K) (state : FlState Id npy.Bytes) : Prop :=
  Loadable npy state ∧ Numbered state.redis

theorem returns_serve (call : FlCall Id npy) (returns : Returns npy state) :
    Returns npy (serve npy state call) :=
  ⟨loadable_serve returns.1 call, numbered_serve returns.1 returns.2 call⟩

theorem returns_empty : Returns npy (.empty : FlState Id npy.Bytes) := ⟨loadable_empty, nofun⟩

/-- The round number that a run leaves in Redis is the one that is returned. -/
theorem replyRound_run (calls : List (FlCall Id npy)) (roundNumber : Int)
    (present : (run (serve npy) .empty calls).redis.weights.isSome = true)
    (stored : (run (serve npy) .empty calls).redis.round = some roundNumber.repr) :
    replyRound (getGlobalModelWeights npy (run (serve npy) .empty calls).redis) = roundNumber := by
  have returns : Returns npy (run (serve npy) .empty calls) :=
    run_invariant (serve npy) (fun _ call => returns_serve call) returns_empty calls
  obtain ⟨raw, weights⟩ := Option.isSome_iff_exists.mp present
  rw [(get_reply returns.1 returns.2).1, currentRound, weights, stored]
  exact currentRound_saved raw roundNumber

/-- What calls of `get_global_model_weights` return, placed anywhere among other calls. -/
def repliesOf (npy : NpyFormat K) (watched : List (Watched (FlCall Id npy))) :
    List (Except PyError (ModelReply npy.Bytes)) :=
  (run (watch (serve npy) fun state => getGlobalModelWeights npy state.redis) (.empty, [])
    watched).2

/-- **Exactly when the round number is a version of the model.** Wherever calls of
`get_global_model_weights` are placed among some calls of the other two functions, the round numbers
they return never fall and each comes with one set of weights, exactly if every aggregation that
goes ahead is of a round after that of the model it finds, or leaves that model and its round as
they are. -/
theorem version_iff (npy : NpyFormat K) (calls : List (FlCall Id npy)) :
    (∀ watched : List (Watched (FlCall Id npy)), Watched.ops watched = calls →
        (repliesOf npy watched).Pairwise Precedes) ↔
      Meets (serve npy) (Advances npy) .empty calls := by
  rw [← meets_congr (fun _ call => returns_serve call)
    (fun state call returns => precedes_serve_iff returns.1 returns.2 call) returns_empty calls]
  exact watched_iff precedes_refl (fun _ _ _ => Precedes.trans) FlState.empty calls

/-- The replies to two looks, each after some calls. -/
theorem repliesOf_twice (first second : List (FlCall Id npy)) :
    repliesOf npy (first.map .call ++ Watched.look :: second.map .call ++ [Watched.look]) =
      [getGlobalModelWeights npy (run (serve npy) .empty first).redis,
        getGlobalModelWeights npy (run (serve npy) .empty (first ++ second)).redis] := by
  unfold repliesOf
  rw [List.append_assoc, run_append, run_watch_map, List.cons_append, run_cons, run_append,
    run_watch_map, run_append]
  rfl

/-- A late round lowers the number, and a round that is aggregated again gives its number to other
weights. -/
theorem late_and_repeated_rounds :
    ¬ (repliesOf (.plain ℚ) ((wholeRound one 2).map .call ++ .look ::
        (wholeRound one 1).map .call ++ [.look])).Pairwise Precedes ∧
      ¬ (repliesOf (.plain ℚ) ((wholeRound one 1).map .call ++ .look ::
        (wholeRound one 1).map .call ++ [.look])).Pairwise Precedes := by
  constructor
  · intro ordered
    rw [repliesOf_twice, List.pairwise_pair] at ordered
    have second := replyRound_run (wholeRound one 2) 2 (by decide +kernel) (by decide +kernel)
    have first := replyRound_run (wholeRound one 2 ++ wholeRound one 1) 1 (by decide +kernel)
      (by decide +kernel)
    have late : (2 : Int) ≤ 1 := second.symm.trans_le (ordered.1.trans first.le)
    exact absurd late (by decide)
  · intro ordered
    rw [repliesOf_twice, List.pairwise_pair] at ordered
    have once := replyRound_run (wholeRound one 1) 1 (by decide +kernel) (by decide +kernel)
    have again := replyRound_run (wholeRound one 1 ++ wholeRound one 1) 1 (by decide +kernel)
      (by decide +kernel)
    have repeated := congrArg (fun weights => (weights.bind id).map fun a => a.entry [])
      (ordered.2 (once.trans again.symm))
    revert repeated
    decide +kernel

end ScreenSync.Fl

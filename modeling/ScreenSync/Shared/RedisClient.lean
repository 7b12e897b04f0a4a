/-
**The shared Redis client.**

`RedisClient.set` hands its value to the library, which encodes texts and numbers and raises on a
dictionary; the wrapper swallows whatever is raised. `RedisClient.get` returns what the library
decodes, always a text. Redis is initialised and answers, and no key expires.

* `clientGet_set` — what is read after a write: the text, or what was there before.
* `clientGet_ne_obj`, `clientGet_ne_int` — a read gives neither a dictionary nor a number.
-/

import Mathlib.Logic.Function.Basic
import ScreenSync.Foundation.Json

namespace ScreenSync.Shared

open ScreenSync.Foundation

/-- The encoder of the library: the text of a value, or none where it raises. -/
structure RedisEncoder where
  encode : Json → Option String
  encode_str : ∀ text, encode (.str text) = some text
  encode_int : ∀ n, encode (.int n) = some n.repr
  encode_obj : ∀ entries, encode (.obj entries) = none

/-- Texts and whole numbers are encoded, and floats by some text of theirs; the rest raises. -/
def RedisEncoder.plain (floatText : ℚ → String) : RedisEncoder where
  encode
    | .str text => some text
    | .int n => some n.repr
    | .float x => some (floatText x)
    | _ => none
  encode_str _ := rfl
  encode_int _ := rfl
  encode_obj _ := rfl

/-- The texts in Redis. -/
abbrev TextStore := String → Option String

/-- `RedisClient.get`. -/
def clientGet (redis : TextStore) (key : String) : Json :=
  match redis key with
  | some text => .str text
  | none => .null

/-- `RedisClient.set`. -/
def clientSet (encoder : RedisEncoder) (redis : TextStore) (key : String) (value : Json) :
    TextStore :=
  match encoder.encode value with
  | some text => Function.update redis key (some text)
  -- the exception is swallowed
  | none => redis

variable {encoder : RedisEncoder} {redis : TextStore} {key : String}

/-- **What is read after a write.** -/
theorem clientGet_set (value : Json) :
    clientGet (clientSet encoder redis key value) key =
      ((encoder.encode value).map .str).getD (clientGet redis key) := by
  unfold clientSet
  cases encoder.encode value with
  | none => rfl
  | some text =>
    show clientGet (Function.update redis key (some text)) key = .str text
    unfold clientGet
    rw [Function.update_self]

/-- A dictionary leaves the store as it was. -/
theorem clientSet_obj (entries : Dict Json) :
    clientSet encoder redis key (.obj entries) = redis := by
  unfold clientSet
  rw [encoder.encode_obj]

theorem clientGet_set_int (n : Int) :
    clientGet (clientSet encoder redis key (.int n)) key = .str n.repr := by
  rw [clientGet_set, encoder.encode_int]
  rfl

/-- A read gives no dictionary, since it gives a text or nothing. -/
theorem clientGet_ne_obj (entries : Dict Json) : clientGet redis key ≠ .obj entries := by
  unfold clientGet
  split <;> exact nofun

/-- A read gives no number. -/
theorem clientGet_ne_int (n : Int) : clientGet redis key ≠ .int n := by
  unfold clientGet
  split <;> exact nofun

end ScreenSync.Shared

/-
**Continuing without Redis.**

The REST services write device state to Redis and never read it back. `main.py` goes on when Redis
cannot be initialised, and `get_redis` then hands out a `NullRedis`, whose commands do nothing.

* `SameTables` — two registries that differ in Redis at most.
* `restSession_tabular` — a request on both, with a Redis that may be there for one and not for the
  other: the answers are the same, and so are the tables.
* `redis_never_decides` — the same for every run of requests.
-/

import ScreenSync.Rest.Privacy

namespace ScreenSync.Rest

open ScreenSync.Foundation ScreenSync.Shared

/-- The same rows in every table. -/
structure SameTables (s t : Registry) : Prop where
  devices : s.devices = t.devices
  usageEvents : s.usageEvents = t.usageEvents
  budgets : s.budgets = t.budgets

/-- The two sessions answer the same, or raise the same, and do the same to the tables. -/
def Tabular {α : Type} (session session' : RestSession α) : Prop :=
  Session.Twin SameTables session session' (fun a b s t => a = b ∧ SameTables s t)
    fun e f s t => e = f ∧ SameTables s t

variable {user : UserId} {around : Surroundings} {deviceId : DeviceId}

/-! ### Statements and commands -/

theorem tabular_pure {α : Type} (a : α) : Tabular (pure a) (pure a) :=
  .of_pure fun _ _ same => ⟨rfl, same⟩

theorem Tabular.bind {α β : Type} {session session' : RestSession α} {f g : α → RestSession β}
    (first : Tabular session session') (rest : ∀ a, Tabular (f a) (g a)) :
    Tabular (session >>= f) (session' >>= g) := by
  refine Session.Twin.bind first fun a b s t both => ?_
  obtain ⟨rfl, same⟩ := both
  exact rest a s t same

theorem Tabular.map {α β : Type} {session session' : RestSession α} (f : α → β)
    (tabular : Tabular session session') : Tabular (f <$> session) (f <$> session') := by
  rw [map_eq_pure_bind, map_eq_pure_bind]
  exact tabular.bind fun a => tabular_pure (f a)

/-- A write to the tables. -/
theorem tabular_modify {f : Registry → Registry}
    (kept : ∀ s t, SameTables s t → SameTables (f s) (f t)) : Tabular (modify f) (modify f) :=
  .of_modify fun s t same => ⟨rfl, kept s t same⟩

/-- **A command that does not raise** is lost on the tables. -/
theorem tabular_redisCommand {link link' : RedisLink} (reachable : link ≠ .down)
    (reachable' : link' ≠ .down)
    (effect effect' : (String → Option String) → String → Option String) :
    Tabular (redisCommand link effect) (redisCommand link' effect') := by
  intro s t same
  cases link with
  | down => exact absurd rfl reachable
  | up =>
    cases link' with
    | down => exact absurd rfl reachable'
    | up => exact ⟨rfl, same.devices, same.usageEvents, same.budgets⟩
    | null => exact ⟨rfl, same.devices, same.usageEvents, same.budgets⟩
  | null =>
    cases link' with
    | down => exact absurd rfl reachable'
    | up => exact ⟨rfl, same.devices, same.usageEvents, same.budgets⟩
    | null => exact ⟨rfl, same⟩

theorem tabular_insertDevice (accepts : Bool) (row : DeviceRow) :
    Tabular (insertDevice accepts row) (insertDevice accepts row) := by
  rintro ⟨devices, events, budgets, redis⟩ ⟨_, _, _, redis'⟩ ⟨rfl, rfl, rfl⟩
  simp only [insertDevice, Session.exec_bind, Session.exec_get]
  by_cases fresh : devices.find row.id = none ∧ accepts = true
  · rw [dif_pos fresh, dif_pos fresh]
    exact ⟨trivial, rfl, rfl, rfl⟩
  · rw [dif_neg fresh, dif_neg fresh]
    exact ⟨rfl, rfl, rfl, rfl⟩

theorem tabular_insertUsageEvent (accepts : Bool) (row : UsageEvent) :
    Tabular (insertUsageEvent accepts row) (insertUsageEvent accepts row) := by
  rintro ⟨devices, events, budgets, redis⟩ ⟨_, _, _, redis'⟩ ⟨rfl, rfl, rfl⟩
  simp only [insertUsageEvent, Session.exec_bind, Session.exec_get]
  by_cases fresh : events.find row.id = none ∧ accepts = true
  · rw [dif_pos fresh, dif_pos fresh]
    exact ⟨trivial, rfl, rfl, rfl⟩
  · rw [dif_neg fresh, dif_neg fresh]
    exact ⟨rfl, rfl, rfl, rfl⟩

theorem tabular_getDeviceForUser (deviceId : DeviceId) (user : UserId) :
    Tabular (getDeviceForUser deviceId user) (getDeviceForUser deviceId user) := by
  intro s t same
  simp only [getDeviceForUser, Session.exec_bind, Session.exec_get, same.devices]
  cases t.devices.find deviceId with
  | none => exact ⟨rfl, same⟩
  | some device =>
    by_cases owner : device.userId = user
    · simp only [owner, ne_eq, not_true_eq_false, if_false]
      exact ⟨rfl, same⟩
    · simp only [owner, ne_eq, not_false_eq_true, if_true]
      exact ⟨rfl, same⟩

/-! ### Requests -/

/-- The surroundings of a call, but for what becomes of its Redis commands. -/
def Surroundings.relink (around : Surroundings) (links : RedisLink × RedisLink) : Surroundings :=
  { around with redis := links.1, secondRedis := links.2 }

/-- No Redis command of the call raises. -/
def Surroundings.Reachable (around : Surroundings) : Prop :=
  around.redis ≠ .down ∧ around.secondRedis ≠ .down

variable {links : RedisLink × RedisLink}

theorem heartbeat_tabular (reachable : around.Reachable) (reachable' : (around.relink links).Reachable)
    (deviceId : DeviceId) (user : UserId) (battery : Option Int) :
    Tabular (heartbeat around deviceId user battery)
      (heartbeat (around.relink links) deviceId user battery) := by
  refine (tabular_getDeviceForUser deviceId user).bind fun device => ?_
  have beats : Tabular (modify (beatDevice device.id around.now))
      (modify (beatDevice device.id around.now)) := by
    refine tabular_modify fun s t same => ⟨?_, same.usageEvents, same.budgets⟩
    show (beatDevice _ _ s).devices = (beatDevice _ _ t).devices
    simp only [beatDevice, updateDevice, same.devices]
  refine beats.bind fun _ => (tabular_redisCommand reachable.1 reachable'.1 _ _).bind fun _ => ?_
  cases battery with
  | none => exact tabular_pure _
  | some level =>
    exact (tabular_redisCommand reachable.2 reachable'.2 _ _).bind fun _ => tabular_pure _

theorem deregisterDevice_tabular (reachable : around.Reachable)
    (reachable' : (around.relink links).Reachable) (deviceId : DeviceId) (user : UserId) :
    Tabular (deregisterDevice around deviceId user)
      (deregisterDevice (around.relink links) deviceId user) := by
  refine (tabular_getDeviceForUser deviceId user).bind fun device => ?_
  have deletes : Tabular (modify (deleteDevice device.id)) (modify (deleteDevice device.id)) := by
    refine tabular_modify fun s t same => ⟨?_, ?_, ?_⟩
    · show s.devices.deleteWhere _ = t.devices.deleteWhere _
      rw [same.devices]
    · show s.usageEvents.deleteWhere _ = t.usageEvents.deleteWhere _
      rw [same.usageEvents]
    · show s.budgets.deleteWhere _ = t.budgets.deleteWhere _
      rw [same.budgets]
  exact deletes.bind fun _ => tabular_redisCommand reachable.1 reachable'.1 _ _

theorem recordUsage_tabular (deviceId : DeviceId) (appCategory : String) (durationSeconds : Int)
    (user : UserId) :
    Tabular (recordUsage around deviceId appCategory durationSeconds user)
      (recordUsage (around.relink links) deviceId appCategory durationSeconds user) := by
  intro s t same
  simp only [recordUsage, Session.exec_bind, Session.exec_get, same.devices]
  cases t.devices.find deviceId with
  | none => exact ⟨rfl, same⟩
  | some device =>
    by_cases owner : device.userId = user
    · simp only [owner, ne_eq, not_true_eq_false, if_false]
      have records := (tabular_insertUsageEvent around.accepts
        (newUsageEvent around deviceId appCategory durationSeconds)).bind fun _ =>
          tabular_pure (newUsageEvent around deviceId appCategory durationSeconds)
      exact records s t same
    · simp only [owner, ne_eq, not_false_eq_true, if_true]
      exact ⟨rfl, same⟩

/-- **One request, with two kinds of Redis.** -/
theorem restSession_tabular (reachable : around.Reachable)
    (reachable' : (around.relink links).Reachable) (user : UserId) (call : RestCall) :
    Tabular (restSession user around call) (restSession user (around.relink links) call) := by
  cases call with
  | registerDevice name deviceType priority =>
    exact ((tabular_insertDevice around.accepts _).bind fun _ => tabular_pure _).map _
  | heartbeat deviceId battery =>
    exact (heartbeat_tabular reachable reachable' deviceId user battery).map _
  | listDevices =>
    have lists : Tabular (listDevices user) (listDevices user) := by
      intro s t same
      refine ⟨?_, same⟩
      rw [same.devices]
    exact lists.map _
  | deregisterDevice deviceId =>
    exact (deregisterDevice_tabular reachable reachable' deviceId user).bind fun _ =>
      tabular_pure _
  | recordUsage deviceId appCategory durationSeconds =>
    exact (recordUsage_tabular deviceId appCategory durationSeconds user).map _
  | dailySummary targetDate =>
    have sums : Tabular (dailySummary user targetDate) (dailySummary user targetDate) := by
      intro s t same
      refine ⟨?_, same⟩
      rw [same.devices, same.usageEvents]
    exact sums.map _

theorem serveRest_tabular (reachable : around.Reachable)
    (reachable' : (around.relink links).Reachable) {s t : Registry} (same : SameTables s t)
    (user : UserId) (call : RestCall) :
    (serveRest user s (call, around)).1 = (serveRest user t (call, around.relink links)).1 ∧
      SameTables (serveRest user s (call, around)).2
        (serveRest user t (call, around.relink links)).2 := by
  have both := restSession_tabular reachable reachable' user call s t same
  have rolledBack : ∀ next next' : Registry,
      SameTables { s with redis := next.redis } { t with redis := next'.redis } :=
    fun _ _ => ⟨same.devices, same.usageEvents, same.budgets⟩
  unfold serveRest getDb
  dsimp only [Surroundings.relink] at both ⊢
  generalize (restSession user around call).exec s = left at both ⊢
  generalize (restSession user _ call).exec t = right at both ⊢
  obtain ⟨a | a, s'⟩ := left <;> obtain ⟨b | b, t'⟩ := right
  · exact ⟨congrArg Except.error both.1, rolledBack s' t'⟩
  · exact both.elim
  · exact both.elim
  · obtain ⟨rfl, after⟩ := both
    by_cases commits : around.commits = true
    · simp only [commits, if_true]
      exact ⟨trivial, after⟩
    · simp only [commits, Bool.false_eq_true, if_false]
      exact ⟨trivial, rolledBack s' t'⟩

/-! ### Runs -/

/-- A request, and what becomes of its Redis commands the second time. -/
abbrev Relinked := (UserId × RestCall × Surroundings) × RedisLink × RedisLink

def Relinked.second (op : Relinked) : UserId × RestCall × Surroundings :=
  (op.1.1, op.1.2.1, op.1.2.2.relink op.2)

/-- The answers to some requests. -/
def answers (r : Registry) (requests : List (UserId × RestCall × Surroundings)) :
    List (Except ApiError RestAnswer) :=
  heard serveAny (fun r request => (serveRest request.1 r request.2).1) (fun _ => true) r requests

/-- **Redis never decides.** Two runs of the same requests, from the same tables and any two states
of Redis, in which Redis may be up for some commands and disabled for others: they give the same
answers and leave the same tables. -/
theorem redis_never_decides (ops : List Relinked) {s t : Registry} (same : SameTables s t)
    (reachable : ∀ op ∈ ops, op.1.2.2.Reachable ∧ op.second.2.2.Reachable) :
    answers s (ops.map Prod.fst) = answers t (ops.map Relinked.second) ∧
      SameTables (run serveAny s (ops.map Prod.fst)) (run serveAny t (ops.map Relinked.second)) := by
  induction ops generalizing s t with
  | nil => exact ⟨rfl, same⟩
  | cons op later ih =>
    obtain ⟨here, further⟩ := List.forall_mem_cons.mp reachable
    obtain ⟨answered, after⟩ := serveRest_tabular here.1 here.2 same op.1.1 op.1.2.1
    obtain ⟨rest, tables⟩ := ih after further
    exact ⟨congrArg₂ List.cons answered rest, tables⟩

/-- The requests of two users, with Redis up and without it. -/
def withoutRedis : List Relinked := twoUsers.map fun request => (request, .null, .null)

theorem redis_never_decides_two :
    answers noDevices (withoutRedis.map Prod.fst) =
        answers noDevices (withoutRedis.map Relinked.second) ∧
      SameTables (run serveAny noDevices (withoutRedis.map Prod.fst))
        (run serveAny noDevices (withoutRedis.map Relinked.second)) :=
  redis_never_decides withoutRedis ⟨rfl, rfl, rfl⟩ (by
    simp [withoutRedis, twoUsers, undisturbed, Surroundings.Reachable, Relinked.second,
      Surroundings.relink])

end ScreenSync.Rest

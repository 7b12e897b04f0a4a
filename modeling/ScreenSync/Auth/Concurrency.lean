/-
**Registrations at the same time.**

A call of `register` looks its address up, hashes the password, flushes the new row, and commits as
`get_db` closes the session. Other calls run in between. A row that is flushed and not committed is
seen by nobody; but a flush that shares a key with it waits until it is committed or rolled back.

* `Registering.step` — the next step of one call; a call that nobody interrupts is `serveRegister`
  (`alone_registers`).
* `serveRegister_ok_iff` — when a call that is served alone is accepted.
* `Serial` — the invariant: the users are those of the committed calls, served one after another in
  the order of their commits; what is flushed is free to be committed.
* `registrations_serialise` — so they are after every interleaving, and a call that was refused would
  be refused after those as well.
-/

import ScreenSync.Auth.Login

namespace ScreenSync.Auth

open ScreenSync.Foundation ScreenSync.Shared

/-! ### The steps of a call -/

/-- How far a call has come. -/
inductive RegisterStage
  | ready
  /-- The address was free; the row is to be flushed. -/
  | looked (user : User)
  | flushed (user : User)
  | ended (answer : Except AuthError User)

/-- The committed users, the rows that are flushed and not committed, and the calls. -/
structure Registering (ι : Type*) where
  users : Users
  uncommitted : List User
  stage : ι → RegisterStage

namespace Registering

variable {ι : Type*}

/-- Before any call. -/
def start (users : Users) : Registering ι := ⟨users, [], fun _ => .ready⟩

/-- A flush of the row waits for one of the uncommitted rows. -/
def Waits (uncommitted : List User) (user : User) : Prop :=
  ∃ other ∈ uncommitted, other.id = user.id ∨ other.email = user.email

instance (uncommitted : List User) (user : User) : Decidable (Waits uncommitted user) :=
  inferInstanceAs (Decidable (∃ _ ∈ _, _))

/-- Up to the flush: the `SELECT`, and the hash of the password. -/
def look (libraries : Libraries) (users : Users) (call : RegisterCall) : RegisterStage :=
  match emailStr libraries.email call.email with
  | none => .ended (.error (.requestValidation ["email"]))
  | some email =>
    match users.byEmail.find email with
    | some _ => .ended (.error (conflictError "Email already registered"))
    | none =>
      match libraries.pwdContext.hash call.salt call.password with
      | none => .ended (.error .passwordSizeError)
      | some hashedPassword =>
        .looked { id := uuidText (uuid4 call.random), email, hashedPassword }

variable [DecidableEq ι]

/-- A call moves on. -/
def advance (s : Registering ι) (i : ι) (stage : RegisterStage) : Registering ι :=
  { s with stage := Function.update s.stage i stage }

/-- The transaction of a call is over, and its row is no longer uncommitted. -/
def close (s : Registering ι) (i : ι) (user : User) (answer : Except AuthError User) :
    Registering ι :=
  { s.advance i (.ended answer) with
    uncommitted := s.uncommitted.filter fun other => other.id ≠ user.id }

/-- The next step of a call. -/
def step (libraries : Libraries) (calls : ι → RegisterCall) (s : Registering ι) (i : ι) :
    Registering ι :=
  match s.stage i with
  | .ready => s.advance i (look libraries s.users (calls i))
  | .looked user =>
    if Waits s.uncommitted user then s
    else if s.users.Fresh user then
      { s.advance i (.flushed user) with uncommitted := user :: s.uncommitted }
    else s.advance i (.ended (.error .integrityError))
  | .flushed user =>
    if (calls i).commits then
      if fresh : s.users.Fresh user then
        { s.close i user (.ok user) with users := s.users.insert user fresh }
      else s.close i user (.error .integrityError)
    else s.close i user (.error .integrityError)
  | .ended _ => s

end Registering

open Registering

variable {libraries : Libraries}

/-! ### A call that is served alone -/

/-- The row that a call makes. -/
structure Makes (libraries : Libraries) (call : RegisterCall) (user : User) : Prop where
  email : emailStr libraries.email call.email = some user.email
  hashed : libraries.pwdContext.hash call.salt call.password = some user.hashedPassword
  id : user.id = uuidText (uuid4 call.random)

theorem Makes.unique {call : RegisterCall} {first second : User}
    (makes : Makes libraries call first) (makes' : Makes libraries call second) :
    first = second := by
  have email := Option.some.inj (makes.email.symm.trans makes'.email)
  have hashed := Option.some.inj (makes.hashed.symm.trans makes'.hashed)
  have id := makes.id.trans makes'.id.symm
  cases first
  cases second
  cases email
  cases hashed
  cases id
  rfl

/-- **What a lookup comes to.** -/
theorem look_looked {users : Users} {call : RegisterCall} {user : User} :
    look libraries users call = .looked user ↔
      Makes libraries call user ∧ users.byEmail.find user.email = none := by
  unfold look
  constructor
  · intro looked
    split at looked
    · cases looked
    rename_i email normal
    split at looked
    · cases looked
    rename_i free
    split at looked
    · cases looked
    rename_i hashedPassword hashed
    cases looked
    exact ⟨⟨normal, hashed, rfl⟩, free⟩
  · rintro ⟨makes, free⟩
    rw [makes.email]
    dsimp only
    rw [free]
    dsimp only
    rw [makes.hashed]
    dsimp only
    rw [← makes.id]

/-- A lookup either finds the address free or ends the call. -/
theorem look_cases (users : Users) (call : RegisterCall) :
    (∃ user, look libraries users call = .looked user) ∨
      ∃ error, look libraries users call = .ended (.error error) := by
  unfold look
  split
  · exact .inr ⟨_, rfl⟩
  split
  · exact .inr ⟨_, rfl⟩
  split
  · exact .inr ⟨_, rfl⟩
  · exact .inl ⟨_, rfl⟩

/-- The flush of a row and its commit, if nobody interrupts them. -/
def settle (users : Users) (call : RegisterCall) (user : User) : Except AuthError User × Users :=
  if fresh : users.Fresh user ∧ call.commits = true then (.ok user, users.insert user fresh.1)
  else (.error .integrityError, users)

/-- What a call does after its lookup, if nobody interrupts it. -/
def finish (users : Users) (call : RegisterCall) : RegisterStage → Except AuthError User × Users
  | .looked user => settle users call user
  | .ended answer => (answer, users)
  | _ => (.error .integrityError, users)

/-- **A call is its lookup and what follows.** -/
theorem serveRegister_eq (libraries : Libraries) (users : Users) (call : RegisterCall) :
    serveRegister libraries users call = finish users call (look libraries users call) := by
  unfold serveRegister getDb register look
  cases emailStr libraries.email call.email with
  | none => rfl
  | some email =>
    simp only [Session.exec_bind, Session.exec_get]
    cases users.byEmail.find email with
    | some taken => rfl
    | none =>
      dsimp only
      cases libraries.pwdContext.hash call.salt call.password with
      | none => rfl
      | some hashedPassword =>
        dsimp only
        generalize ({ id := uuidText (uuid4 call.random), email, hashedPassword } : User) = user
        show _ = settle users call user
        rw [Session.exec_bind, exec_flushUser]
        unfold settle
        by_cases fresh : users.Fresh user
        · rw [dif_pos fresh]
          by_cases commits : call.commits = true
          · rw [dif_pos ⟨fresh, commits⟩]
            exact if_pos commits
          · rw [dif_neg fun both => commits both.2]
            exact if_neg commits
        · rw [dif_neg fresh, dif_neg fun both => fresh both.1]

/-- **When a call that is served alone is accepted.** -/
theorem serveRegister_ok_iff {users : Users} {call : RegisterCall} {user : User} :
    (serveRegister libraries users call).1 = .ok user ↔
      Makes libraries call user ∧ users.Fresh user ∧ call.commits = true := by
  rw [serveRegister_eq]
  rcases look_cases users call with ⟨made, looked⟩ | ⟨error, ended⟩
  · obtain ⟨makes, -⟩ := look_looked.mp looked
    rw [looked]
    show (settle users call made).1 = .ok user ↔ _
    unfold settle
    by_cases fresh : users.Fresh made ∧ call.commits = true
    · rw [dif_pos fresh]
      constructor
      · intro accepted
        cases accepted
        exact ⟨makes, fresh⟩
      · rintro ⟨makes', -⟩
        exact congrArg Except.ok (makes.unique makes')
    · rw [dif_neg fresh]
      constructor
      · intro accepted
        cases accepted
      · rintro ⟨makes', free, commits⟩
        exact absurd ⟨makes.unique makes' ▸ free, commits⟩ fresh
  · rw [ended]
    constructor
    · intro accepted
      cases accepted
    · rintro ⟨makes, free, -⟩
      cases ended.symm.trans (look_looked.mpr ⟨makes, free.email⟩)

theorem serveRegister_of_fresh {users : Users} {call : RegisterCall} {user : User}
    (makes : Makes libraries call user) (fresh : users.Fresh user) (commits : call.commits = true) :
    serveRegister libraries users call = (.ok user, users.insert user fresh) := by
  rw [serveRegister_eq, look_looked.mpr ⟨makes, fresh.email⟩]
  exact dif_pos ⟨fresh, commits⟩

/-! ### The order of the commits -/

variable {ι : Type*} {calls : ι → RegisterCall} {begun : Users}

/-- The users after some calls, one after another. -/
def inOrder (libraries : Libraries) (calls : ι → RegisterCall) (begun : Users) (order : List ι) :
    Users :=
  registered libraries begun (order.map calls)

theorem inOrder_concat (order : List ι) (i : ι) :
    inOrder libraries calls begun (order ++ [i]) =
      (serveRegister libraries (inOrder libraries calls begun order) (calls i)).2 := by
  unfold inOrder registered
  rw [List.map_append, List.map_singleton, run_concat]

/-- A call that would be refused. -/
def Barred (libraries : Libraries) (users : Users) (call : RegisterCall) : Prop :=
  ∀ user, (serveRegister libraries users call).1 ≠ .ok user

/-- What was free before an insertion need not be free after it; what was taken is. -/
theorem fresh_of_insert {users : Users} {added user : User} {free : users.Fresh added} :
    (users.insert added free).Fresh user ↔
      users.Fresh user ∧ added.id ≠ user.id ∧ added.email ≠ user.email := by
  have byId : (users.insert added free).byId.find user.id =
      if added.id = user.id then some added else users.byId.find user.id :=
    Table.find_insert free.id _
  have byEmail : (users.insert added free).byEmail.find user.email =
      if added.email = user.email then some added else users.byEmail.find user.email :=
    Table.find_insert free.email _
  constructor
  · intro fresh
    have id := fresh.id
    have email := fresh.email
    rw [byId] at id
    rw [byEmail] at email
    split at id
    · cases id
    split at email
    · cases email
    rename_i apart apart'
    exact ⟨⟨id, email⟩, apart, apart'⟩
  · rintro ⟨fresh, apart, apart'⟩
    exact ⟨by rw [byId, if_neg apart]; exact fresh.id,
      by rw [byEmail, if_neg apart']; exact fresh.email⟩

theorem Barred.insert {users : Users} {call : RegisterCall} (barred : Barred libraries users call)
    {added : User} (free : users.Fresh added) :
    Barred libraries (users.insert added free) call := by
  intro user accepted
  obtain ⟨makes, fresh, commits⟩ := serveRegister_ok_iff.mp accepted
  exact barred user (serveRegister_ok_iff.mpr ⟨makes, (fresh_of_insert.mp fresh).1, commits⟩)

/-- **The invariant.** -/
structure Serial (libraries : Libraries) (calls : ι → RegisterCall) (begun : Users)
    (s : Registering ι) (order : List ι) : Prop where
  users : s.users = inOrder libraries calls begun order
  once : order.Nodup
  listed : ∀ i ∈ order, ∃ user, s.stage i = .ended (.ok user)
  ended : ∀ i user, s.stage i = .ended (.ok user) ↔
    ∃ before after, order = before ++ i :: after ∧
      (serveRegister libraries (inOrder libraries calls begun before) (calls i)).1 = .ok user
  refused : ∀ i error, s.stage i = .ended (.error error) → Barred libraries s.users (calls i)
  looked : ∀ i user, s.stage i = .looked user → Makes libraries (calls i) user
  flushed : ∀ i user, s.stage i = .flushed user →
    Makes libraries (calls i) user ∧ user ∈ s.uncommitted
  single : ∀ i j first second, s.stage i = .flushed first → s.stage j = .flushed second →
    first.id = second.id → i = j
  fresh : ∀ user ∈ s.uncommitted, s.users.Fresh user
  ids : (s.uncommitted.map User.id).Nodup
  emails : (s.uncommitted.map User.email).Nodup

theorem serial_start (libraries : Libraries) (calls : ι → RegisterCall) (begun : Users) :
    Serial libraries calls begun (start begun) [] where
  users := rfl
  once := List.nodup_nil
  listed i inside := absurd inside List.not_mem_nil
  ended i user := by
    constructor
    · intro ended
      cases ended
    · rintro ⟨before, after, split, -⟩
      exact absurd split.symm (List.append_ne_nil_of_right_ne_nil _ (List.cons_ne_nil _ _))
  refused i error ended := by cases ended
  looked i user looked := by cases looked
  flushed i user flushed := by cases flushed
  single i j first second flushed := by cases flushed
  fresh user inside := absurd inside List.not_mem_nil
  ids := List.nodup_nil
  emails := List.nodup_nil

/-- The places in a list with one more element at its end. -/
theorem split_concat {i j : ι} {order : List ι} {holds : List ι → Prop} :
    (∃ before after, order ++ [i] = before ++ j :: after ∧ holds before) ↔
      (∃ before after, order = before ++ j :: after ∧ holds before) ∨ j = i ∧ holds order := by
  constructor
  · rintro ⟨before, after, split, here⟩
    rcases List.eq_nil_or_concat after with rfl | ⟨rest, last, rfl⟩
    · obtain ⟨rfl, same⟩ := List.append_inj' split rfl
      exact .inr ⟨(List.cons.inj same).1.symm, here⟩
    · rw [List.concat_eq_append, ← List.cons_append, ← List.append_assoc] at split
      obtain ⟨rfl, -⟩ := List.append_inj' split rfl
      exact .inl ⟨before, rest, rfl, here⟩
  · rintro (⟨before, after, rfl, here⟩ | ⟨rfl, here⟩)
    · exact ⟨before, after ++ [i], by rw [List.append_assoc, List.cons_append], here⟩
    · exact ⟨order, [], rfl, here⟩

section Steps

variable [DecidableEq ι] {s : Registering ι} {order : List ι} {i : ι}

/-- A call that is not at a stage before it moves on, and is not after it. -/
theorem stage_advance_iff {stage target : RegisterStage} (before : s.stage i ≠ target)
    (after : stage ≠ target) (j : ι) :
    (s.advance i stage).stage j = target ↔ s.stage j = target := by
  show Function.update s.stage i stage j = target ↔ _
  rw [Function.update_apply]
  split
  · rename_i same
    subst same
    exact iff_of_false after before
  · rfl

/-- No row has been flushed yet. -/
def Pending : RegisterStage → Prop
  | .ready | .looked _ => True
  | .flushed _ | .ended _ => False

theorem Pending.not_flushed {stage : RegisterStage} (pending : Pending stage) (user : User) :
    stage ≠ .flushed user := by
  rintro rfl
  exact pending

theorem Pending.not_ended {stage : RegisterStage} (pending : Pending stage)
    (answer : Except AuthError User) : stage ≠ .ended answer := by
  rintro rfl
  exact pending

/-- **A step that neither flushes nor commits.** -/
theorem Serial.advance (serial : Serial libraries calls begun s order) {stage : RegisterStage}
    (pending : Pending (s.stage i))
    (next : (∃ user, stage = .looked user ∧ Makes libraries (calls i) user) ∨
      ∃ error, stage = .ended (.error error) ∧ Barred libraries s.users (calls i)) :
    Serial libraries calls begun (s.advance i stage) order := by
  have noFlush : ∀ user, stage ≠ .flushed user := by
    rcases next with ⟨made, rfl, -⟩ | ⟨error, rfl, -⟩ <;> exact fun _ same => by cases same
  have noCommit : ∀ user, stage ≠ .ended (.ok user) := by
    rcases next with ⟨made, rfl, -⟩ | ⟨error, rfl, -⟩ <;> exact fun _ same => by cases same
  have self : (s.advance i stage).stage i = stage := Function.update_self ..
  have others : ∀ {j}, j ≠ i → (s.advance i stage).stage j = s.stage j := fun apart =>
    Function.update_of_ne apart _ _
  exact
    { users := serial.users
      once := serial.once
      listed := by
        intro j inside
        obtain ⟨user, ended⟩ := serial.listed j inside
        exact ⟨user, (stage_advance_iff (pending.not_ended _) (noCommit user) j).mpr ended⟩
      ended := fun j user =>
        (stage_advance_iff (pending.not_ended _) (noCommit user) j).trans (serial.ended j user)
      refused := by
        intro j error ended
        by_cases same : j = i
        · subst same
          rw [self] at ended
          rcases next with ⟨made, rfl, -⟩ | ⟨error', rfl, barred⟩
          · cases ended
          · exact barred
        · rw [others same] at ended
          exact serial.refused j error ended
      looked := by
        intro j user looked
        by_cases same : j = i
        · subst same
          rw [self] at looked
          rcases next with ⟨made, rfl, makes⟩ | ⟨error, rfl, -⟩
          · cases looked
            exact makes
          · cases looked
        · rw [others same] at looked
          exact serial.looked j user looked
      flushed := fun j user flushed =>
        serial.flushed j user ((stage_advance_iff (pending.not_flushed user) (noFlush user) j).mp flushed)
      single := fun j k first second flushed flushed' =>
        serial.single j k first second
          ((stage_advance_iff (pending.not_flushed first) (noFlush first) j).mp flushed)
          ((stage_advance_iff (pending.not_flushed second) (noFlush second) k).mp flushed')
      fresh := serial.fresh
      ids := serial.ids
      emails := serial.emails }

/-- **A flush.** -/
theorem Serial.flush (serial : Serial libraries calls begun s order) {user : User}
    (turn : s.stage i = .looked user) (clear : ¬ Waits s.uncommitted user)
    (fresh : s.users.Fresh user) :
    Serial libraries calls begun
      { s.advance i (.flushed user) with uncommitted := user :: s.uncommitted } order := by
  have self : (s.advance i (.flushed user)).stage i = .flushed user := Function.update_self ..
  have others : ∀ {j}, j ≠ i → (s.advance i (.flushed user)).stage j = s.stage j := fun apart =>
    Function.update_of_ne apart _ _
  have ended : ∀ answer j, (s.advance i (.flushed user)).stage j = .ended answer ↔
      s.stage j = .ended answer := fun answer j =>
    stage_advance_iff (by rw [turn]; intro same; cases same) (by intro same; cases same) j
  -- nobody else holds a row of this id
  have apart : ∀ {j other}, s.stage j = .flushed other → other.id ≠ user.id := fun flushed same =>
    clear ⟨_, (serial.flushed _ _ flushed).2, .inl same⟩
  exact
    { users := serial.users
      once := serial.once
      listed := by
        intro j inside
        obtain ⟨other, done⟩ := serial.listed j inside
        exact ⟨other, (ended _ j).mpr done⟩
      ended := fun j other => (ended _ j).trans (serial.ended j other)
      refused := fun j error done => serial.refused j error ((ended _ j).mp done)
      looked := by
        intro j other looked
        by_cases same : j = i
        · subst same
          cases self.symm.trans looked
        · exact serial.looked j other ((others same).symm.trans looked)
      flushed := by
        intro j other flushed
        by_cases same : j = i
        · subst same
          cases self.symm.trans flushed
          exact ⟨serial.looked j user turn, List.mem_cons_self⟩
        · obtain ⟨makes, held⟩ := serial.flushed j other ((others same).symm.trans flushed)
          exact ⟨makes, List.mem_cons_of_mem _ held⟩
      single := by
        intro j k first second flushed flushed' same
        by_cases here : j = i
        · by_cases there : k = i
          · rw [here, there]
          · subst here
            cases self.symm.trans flushed
            exact absurd same.symm (apart ((others there).symm.trans flushed'))
        · by_cases there : k = i
          · subst there
            cases self.symm.trans flushed'
            exact absurd same (apart ((others here).symm.trans flushed))
          · exact serial.single j k first second ((others here).symm.trans flushed)
              ((others there).symm.trans flushed') same
      fresh := List.forall_mem_cons.mpr ⟨fresh, serial.fresh⟩
      ids := by
        refine List.nodup_cons.mpr ⟨fun taken => ?_, serial.ids⟩
        obtain ⟨other, held, same⟩ := List.mem_map.mp taken
        exact clear ⟨other, held, .inl same⟩
      emails := by
        refine List.nodup_cons.mpr ⟨fun taken => ?_, serial.emails⟩
        obtain ⟨other, held, same⟩ := List.mem_map.mp taken
        exact clear ⟨other, held, .inr same⟩ }

/-- The rows that stay uncommitted when a transaction is over. -/
theorem mem_close {user other : User} {answer : Except AuthError User} :
    other ∈ (s.close i user answer).uncommitted ↔ other ∈ s.uncommitted ∧ other.id ≠ user.id := by
  show other ∈ s.uncommitted.filter _ ↔ _
  rw [List.mem_filter, decide_eq_true_iff]

/-- What the invariant says of the other calls when a transaction is over. -/
theorem Serial.close_flushed (serial : Serial libraries calls begun s order) {user : User}
    (turn : s.stage i = .flushed user) (answer : Except AuthError User) {j : ι} {other : User}
    (flushed : (s.close i user answer).stage j = .flushed other) :
    s.stage j = .flushed other ∧ other.id ≠ user.id := by
  have here : j ≠ i := by
    rintro rfl
    have self : (s.close j user answer).stage j = .ended answer := Function.update_self ..
    cases self.symm.trans flushed
  have before : s.stage j = .flushed other :=
    (Function.update_of_ne here _ _).symm.trans flushed
  exact ⟨before, fun same => here (serial.single j i other user before turn same)⟩

/-- **A rollback.** -/
theorem Serial.rollback (serial : Serial libraries calls begun s order) {user : User}
    (turn : s.stage i = .flushed user) (error : AuthError)
    (barred : Barred libraries s.users (calls i)) :
    Serial libraries calls begun (s.close i user (.error error)) order := by
  have ended : ∀ answer j, j ≠ i ∨ answer ≠ .error error →
      ((s.close i user (.error error)).stage j = .ended answer ↔ s.stage j = .ended answer) := by
    intro answer j other
    by_cases here : j = i
    · subst here
      have self : (s.close j user (.error error)).stage j = .ended (.error error) :=
        Function.update_self ..
      refine iff_of_false (fun done => ?_) fun done => by cases turn.symm.trans done
      cases self.symm.trans done
      exact other.elim (fun apart => apart rfl) fun apart => apart rfl
    · show Function.update s.stage i _ j = _ ↔ _
      rw [Function.update_of_ne here]
  have accepted : ∀ other : User, Except.ok other ≠ Except.error error :=
    fun _ same => by cases same
  exact
    { users := serial.users
      once := serial.once
      listed := by
        intro j inside
        obtain ⟨other, done⟩ := serial.listed j inside
        exact ⟨other, (ended _ j (.inr (accepted other))).mpr done⟩
      ended := fun j other => (ended _ j (.inr (accepted other))).trans (serial.ended j other)
      refused := by
        intro j error' done
        by_cases here : j = i
        · subst here
          exact barred
        · exact serial.refused j error' ((ended _ j (.inl here)).mp done)
      looked := by
        intro j other looked
        have here : j ≠ i := by
          rintro rfl
          have self : (s.close j user (.error error)).stage j = .ended (.error error) :=
            Function.update_self ..
          cases self.symm.trans looked
        exact serial.looked j other ((Function.update_of_ne here _ _).symm.trans looked)
      flushed := by
        intro j other flushed
        obtain ⟨before, apart⟩ := serial.close_flushed turn _ flushed
        obtain ⟨makes, held⟩ := serial.flushed j other before
        exact ⟨makes, mem_close.mpr ⟨held, apart⟩⟩
      single := fun j k first second flushed flushed' =>
        serial.single j k first second (serial.close_flushed turn _ flushed).1
          (serial.close_flushed turn _ flushed').1
      fresh := fun other held => serial.fresh other (mem_close.mp held).1
      ids := serial.ids.sublist (List.filter_sublist.map _)
      emails := serial.emails.sublist (List.filter_sublist.map _) }

/-- **A commit.** -/
theorem Serial.commit (serial : Serial libraries calls begun s order) {user : User}
    (turn : s.stage i = .flushed user) (commits : (calls i).commits = true)
    (fresh : s.users.Fresh user) :
    Serial libraries calls begun
      { s.close i user (.ok user) with users := s.users.insert user fresh } (order ++ [i]) := by
  obtain ⟨makes, held⟩ := serial.flushed i user turn
  have served := serveRegister_of_fresh makes fresh commits
  have next : s.users.insert user fresh = inOrder libraries calls begun (order ++ [i]) := by
    rw [inOrder_concat, ← serial.users, served]
  have accepted : ∀ other,
      (serveRegister libraries (inOrder libraries calls begun order) (calls i)).1 = .ok other ↔
        other = user := by
    intro other
    rw [← serial.users, served]
    exact ⟨fun same => (Except.ok.inj same).symm, fun same => congrArg Except.ok same.symm⟩
  have unlisted : i ∉ order := by
    intro inside
    obtain ⟨other, done⟩ := serial.listed i inside
    cases turn.symm.trans done
  have self : (s.close i user (.ok user)).stage i = .ended (.ok user) := Function.update_self ..
  have others : ∀ {j}, j ≠ i → (s.close i user (.ok user)).stage j = s.stage j := fun apart =>
    Function.update_of_ne apart _ _
  have left : ∀ other, other ∈ (s.close i user (.ok user)).uncommitted ↔
      other ∈ s.uncommitted ∧ other.id ≠ user.id := fun _ => mem_close
  exact
    { users := next
      once := List.nodup_append.mpr ⟨serial.once, List.nodup_singleton i, fun j inside k single => by
        rw [List.mem_singleton.mp single]
        rintro rfl
        exact unlisted inside⟩
      listed := by
        intro j inside
        by_cases here : j = i
        · subst here
          exact ⟨user, self⟩
        · have before : j ∈ order := (List.mem_append.mp inside).resolve_right fun last =>
            here (List.mem_singleton.mp last)
          obtain ⟨other, done⟩ := serial.listed j before
          exact ⟨other, (others here).trans done⟩
      ended := by
        intro j other
        refine Iff.trans ?_ split_concat.symm
        show (s.close i user (.ok user)).stage j = _ ↔ _
        by_cases here : j = i
        · subst here
          rw [self, accepted]
          constructor
          · intro same
            cases same
            exact .inr ⟨rfl, rfl⟩
          · rintro (⟨before, after, split, -⟩ | ⟨-, rfl⟩)
            · exact absurd (split ▸ List.mem_append_right _ List.mem_cons_self) unlisted
            · rfl
        · rw [others here, serial.ended]
          exact ⟨.inl, fun either => either.resolve_right fun last => here last.1⟩
      refused := by
        intro j error done
        have here : j ≠ i := by
          rintro rfl
          cases self.symm.trans done
        exact (serial.refused j error ((others here).symm.trans done)).insert fresh
      looked := by
        intro j other looked
        have here : j ≠ i := by
          rintro rfl
          cases self.symm.trans looked
        exact serial.looked j other ((others here).symm.trans looked)
      flushed := by
        intro j other flushed
        obtain ⟨before, apart⟩ := serial.close_flushed turn _ flushed
        obtain ⟨makes, held⟩ := serial.flushed j other before
        exact ⟨makes, (left other).mpr ⟨held, apart⟩⟩
      single := fun j k first second flushed flushed' =>
        serial.single j k first second (serial.close_flushed turn _ flushed).1
          (serial.close_flushed turn _ flushed').1
      fresh := by
        intro other inside
        obtain ⟨held', apart⟩ := (left other).mp inside
        show (s.users.insert user fresh).Fresh other
        refine fresh_of_insert.mpr ⟨serial.fresh other held', Ne.symm apart, fun same => apart ?_⟩
        rw [List.inj_on_of_nodup_map serial.emails held' held same.symm]
      ids := serial.ids.sublist (List.filter_sublist.map _)
      emails := serial.emails.sublist (List.filter_sublist.map _) }

/-- A call whose lookup ends it would be refused. -/
theorem barred_of_look {users : Users} {call : RegisterCall} {answer : Except AuthError User}
    (ended : look libraries users call = .ended answer) : Barred libraries users call := by
  intro user accepted
  obtain ⟨makes, free, -⟩ := serveRegister_ok_iff.mp accepted
  cases ended.symm.trans (look_looked.mpr ⟨makes, free.email⟩)

/-- **Every step keeps the invariant**, in an order that it may have extended. -/
theorem Serial.step (serial : Serial libraries calls begun s order) (i : ι) :
    ∃ order, Serial libraries calls begun (s.step libraries calls i) order := by
  unfold Registering.step
  cases turn : s.stage i with
  | ready =>
    have pending : Pending (s.stage i) := turn ▸ trivial
    refine ⟨order, serial.advance pending ?_⟩
    rcases look_cases s.users (calls i) with ⟨user, looked⟩ | ⟨error, ended⟩
    · exact .inl ⟨user, looked, (look_looked.mp looked).1⟩
    · exact .inr ⟨error, ended, barred_of_look ended⟩
  | looked user =>
    have pending : Pending (s.stage i) := turn ▸ trivial
    dsimp only
    by_cases waits : Waits s.uncommitted user
    · rw [if_pos waits]
      exact ⟨order, serial⟩
    · rw [if_neg waits]
      by_cases fresh : s.users.Fresh user
      · rw [if_pos fresh]
        exact ⟨order, serial.flush turn waits fresh⟩
      · rw [if_neg fresh]
        refine ⟨order, serial.advance pending (.inr ⟨_, rfl, fun other accepted => ?_⟩)⟩
        obtain ⟨makes, free, -⟩ := serveRegister_ok_iff.mp accepted
        exact fresh (makes.unique (serial.looked i user turn) ▸ free)
  | flushed user =>
    have fresh := serial.fresh user (serial.flushed i user turn).2
    dsimp only
    by_cases commits : (calls i).commits = true
    · rw [if_pos commits, dif_pos fresh]
      exact ⟨order ++ [i], serial.commit turn commits fresh⟩
    · rw [if_neg commits]
      refine ⟨order, serial.rollback turn .integrityError fun other accepted => ?_⟩
      exact commits (serveRegister_ok_iff.mp accepted).2.2
  | ended answer => exact ⟨order, serial⟩

end Steps

/-! ### Every interleaving -/

/-- The users and the answers are those of the committed calls, one after another in this order; a
call that was refused would be refused after them as well, and a row that is flushed is free to be
committed. -/
structure Serialised (libraries : Libraries) (calls : ι → RegisterCall) (begun : Users)
    (s : Registering ι) (order : List ι) : Prop where
  once : order.Nodup
  users : s.users = registered libraries begun (order.map calls)
  accepted : ∀ i user, s.stage i = .ended (.ok user) ↔
    ∃ before after, order = before ++ i :: after ∧
      (serveRegister libraries (registered libraries begun (before.map calls)) (calls i)).1 =
        .ok user
  refused : ∀ i error, s.stage i = .ended (.error error) →
    ∀ user, (serveRegister libraries s.users (calls i)).1 ≠ .ok user
  committable : ∀ i user, s.stage i = .flushed user → s.users.Fresh user

/-- **Registrations are serialisable**: whatever order the statements of any number of calls come in,
the users are those that the committed calls, one after another, would have registered, each of them
with the same answer. -/
theorem registrations_serialise [DecidableEq ι] (libraries : Libraries) (calls : ι → RegisterCall)
    (begun : Users) (schedule : List ι) :
    ∃ order, Serialised libraries calls begun
      (run (Registering.step libraries calls) (start begun) schedule) order := by
  have kept : ∀ (s : Registering ι) i, (∃ order, Serial libraries calls begun s order) →
      ∃ order, Serial libraries calls begun (s.step libraries calls i) order := by
    rintro s i ⟨order, serial⟩
    exact serial.step i
  obtain ⟨order, serial⟩ :=
    run_invariant _ kept ⟨[], serial_start libraries calls begun⟩ schedule
  exact ⟨order,
    { once := serial.once
      users := serial.users
      accepted := serial.ended
      refused := serial.refused
      committable := fun i user flushed => serial.fresh user (serial.flushed i user flushed).2 }⟩

/-! ### A call that nobody interrupts -/

section Alone

variable [DecidableEq ι] {s : Registering ι} {i : ι} {user : User}

theorem step_looked (turn : s.stage i = .looked user) : s.step libraries calls i =
    if Waits s.uncommitted user then s
    else if s.users.Fresh user then
      { s.advance i (.flushed user) with uncommitted := user :: s.uncommitted }
    else s.advance i (.ended (.error .integrityError)) := by
  unfold Registering.step
  rw [turn]

theorem step_flushed (turn : s.stage i = .flushed user) : s.step libraries calls i =
    if (calls i).commits then
      if fresh : s.users.Fresh user then
        { s.close i user (.ok user) with users := s.users.insert user fresh }
      else s.close i user (.error .integrityError)
    else s.close i user (.error .integrityError) := by
  unfold Registering.step
  rw [turn]

theorem step_ended {answer : Except AuthError User} (turn : s.stage i = .ended answer) :
    s.step libraries calls i = s := by
  unfold Registering.step
  rw [turn]

/-- A call that has looked its address up and is not interrupted any more. -/
theorem alone_settles (calls : ι → RegisterCall) (turn : s.stage i = .looked user)
    (clear : s.uncommitted = []) :
    ((s.step libraries calls i).step libraries calls i).stage i =
        .ended (settle s.users (calls i) user).1 ∧
      ((s.step libraries calls i).step libraries calls i).users =
        (settle s.users (calls i) user).2 := by
  have free : ¬ Waits s.uncommitted user := by
    rintro ⟨other, held, -⟩
    rw [clear] at held
    exact List.not_mem_nil held
  have self : ∀ stage, (s.advance i stage).stage i = stage := fun _ => Function.update_self ..
  unfold settle
  by_cases fresh : s.users.Fresh user
  · have flushes : ∃ t, s.step libraries calls i = t ∧ t.users = s.users ∧
        t.stage i = .flushed user :=
      ⟨_, (step_looked turn).trans ((if_neg free).trans (if_pos fresh)), rfl, self _⟩
    obtain ⟨t, same, users, turn'⟩ := flushes
    rw [← users] at fresh
    rw [same, step_flushed turn', ← users]
    by_cases commits : (calls i).commits = true
    · have inserts : t.users.Fresh user ∧ (calls i).commits = true := ⟨fresh, commits⟩
      rw [if_pos commits, dif_pos fresh, dif_pos inserts]
      exact ⟨Function.update_self .., rfl⟩
    · rw [if_neg commits, dif_neg fun both => commits both.2]
      exact ⟨Function.update_self .., rfl⟩
  · have refuses : s.step libraries calls i = s.advance i (.ended (.error .integrityError)) :=
      (step_looked turn).trans ((if_neg free).trans (if_neg fresh))
    rw [refuses, step_ended (self _), dif_neg fun both => fresh both.1]
    exact ⟨self _, rfl⟩

/-- **A call that nobody interrupts** is `serveRegister`. -/
theorem alone_registers (libraries : Libraries) (calls : ι → RegisterCall) (users : Users) (i : ι) :
    (run (Registering.step libraries calls) (start users) [i, i, i]).stage i =
        .ended (serveRegister libraries users (calls i)).1 ∧
      (run (Registering.step libraries calls) (start users) [i, i, i]).users =
        (serveRegister libraries users (calls i)).2 := by
  have looks : (start users).step libraries calls i =
      (start users).advance i (look libraries users (calls i)) := rfl
  have self : ∀ stage, ((start users).advance i stage).stage i = stage := fun _ =>
    Function.update_self ..
  rw [run_cons, run_cons, run_cons, run_nil, looks, serveRegister_eq]
  rcases look_cases users (calls i) with ⟨user, looked⟩ | ⟨error, ended⟩
  · rw [looked]
    exact alone_settles calls (self _) rfl
  · rw [ended, step_ended (self _), step_ended (self _)]
    exact ⟨self _, rfl⟩

end Alone

/-- Two registrations of one address, and both look it up before one of them is flushed. -/
def twoMums (first : Bool) : RegisterCall :=
  { registration "mum@HOME.org" with random := if first then 1 else 2 }

-- The second flush waits for the first commit, and is refused.
example : ((run (Registering.step someLibraries twoMums) (start .empty)
      [true, false, true, false, true, false]).stage false matches
    .ended (.error .integrityError)) = true := by decide +kernel

end ScreenSync.Auth

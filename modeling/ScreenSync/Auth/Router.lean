/-
**The JSON routes of the auth service.**

`auth_service/router.py`, which `main.py` does not mount: `register` is that of `oauth.py`, but
`login` takes a JSON body, and its address goes through `EmailStr` as well.

* `loginJson` — `POST /auth/login`.
* `mem_registered_iff` — the users there are, as the registrations that were accepted.
* `credentials_iff` — a login succeeds, and its token stands for a user, exactly if a registration
  of this user was accepted with an address of the same normal form and the same password.
-/

import ScreenSync.Auth.Login

namespace ScreenSync.Auth

open ScreenSync.Foundation ScreenSync.Shared

/-- `login` of `router.py`, at an instant of the clock. -/
def loginJson (libraries : Libraries) (settings : Settings) (users : Users) (issued : Nat)
    (email password : String) : Except AuthError LoginAnswer :=
  match emailStr libraries.email email with
  | none => .error (.requestValidation ["email"])
  | some address =>
    match users.byEmail.find address with
    | none => .error (unauthorized "Invalid email or password")
    | some user =>
      match libraries.pwdContext.verify password user.hashedPassword with
      | none => .error .passwordSizeError
      | some false => .error (unauthorized "Invalid email or password")
      | some true => .ok
        { accessToken := createAccessToken libraries settings issued user.id
          tokenType := "bearer" }

/-- `GET /auth/me`. -/
def me (libraries : Libraries) (settings : Settings) (users : Users) (now : Nat) (token : String) :
    Except AuthError User :=
  getCurrentUser libraries settings users now token

variable {libraries : Libraries} {settings : Settings}

/-! ### The users there are -/

/-- A call is accepted in a run, and registers the user. -/
def Registered (libraries : Libraries) (calls : List RegisterCall) (call : RegisterCall)
    (user : User) : Prop :=
  ∃ before after, calls = before ++ call :: after ∧
    (serveRegister libraries (registered libraries .empty before) call).1 = .ok user

/-- **The users are those that were registered.** -/
theorem mem_registered_iff {calls : List RegisterCall} {user : User} :
    user ∈ (registered libraries .empty calls).byId.rows ↔
      ∃ call, Registered libraries calls call user := by
  constructor
  · intro member
    induction calls using List.reverseRecOn with
    | nil => cases member
    | append_singleton before call ih =>
      have last : registered libraries .empty (before ++ [call]) =
          (serveRegister libraries (registered libraries .empty before) call).2 := run_concat _ _ _ _
      have earlier : user ∈ (registered libraries .empty before).byId.rows →
          ∃ other, Registered libraries (before ++ [call]) other user := by
        intro inside
        obtain ⟨other, first, rest, split, accepted⟩ := ih inside
        refine ⟨other, first, rest ++ [call], ?_, accepted⟩
        rw [split, List.append_assoc, List.cons_append]
      rw [last] at member
      obtain same | ⟨added, accepted⟩ :=
        serveRegister_cases libraries (registered libraries .empty before) call
      · rw [same] at member
        exact earlier member
      · rw [(stored_of_accepted accepted).rows] at member
        rcases List.mem_append.mp member with inside | new
        · exact earlier inside
        · rw [List.mem_singleton.mp new]
          exact ⟨call, before, [], rfl, by rw [accepted]⟩
  · rintro ⟨call, before, after, rfl, accepted⟩
    have stored := stored_of_accepted (Prod.ext accepted rfl)
    have split : registered libraries .empty (before ++ call :: after) = registered libraries
        (serveRegister libraries (registered libraries .empty before) call).2 after := by
      unfold registered
      rw [run_append, run_cons]
    rw [split]
    refine mem_registered ?_ after
    rw [stored.rows]
    exact List.mem_append_right _ (List.mem_singleton_self _)

/-- What an accepted registration has stored of its user. -/
theorem Registered.stored {calls : List RegisterCall} {call : RegisterCall} {user : User}
    (accepted : Registered libraries calls call user) :
    emailStr libraries.email call.email = some user.email ∧
      libraries.pwdContext.hash call.salt call.password = some user.hashedPassword ∧
      user.id ≠ "" := by
  obtain ⟨before, after, -, answered⟩ := accepted
  have stored := stored_of_accepted (Prod.ext answered rfl)
  exact ⟨stored.email, stored.hashed, stored.id⟩

/-! ### Login -/

/-- **A login that succeeds** has found a user by the normal form of the address. -/
theorem loginJson_eq_ok {users : Users} {issued : Nat} {email password : String}
    {answer : LoginAnswer} :
    loginJson libraries settings users issued email password = .ok answer ↔
      ∃ user, emailStr libraries.email email = some user.email ∧
        Found libraries users user.email password user ∧
        answer = ⟨createAccessToken libraries settings issued user.id, "bearer"⟩ := by
  unfold loginJson
  constructor
  · intro succeeded
    split at succeeded
    · cases succeeded
    rename_i address normal
    split at succeeded
    · cases succeeded
    rename_i user found
    obtain ⟨member, rfl⟩ := Table.find_eq_some.mp found
    split at succeeded
    · cases succeeded
    · cases succeeded
    rename_i verified
    exact ⟨user, normal, ⟨member, rfl, verified⟩, (Except.ok.inj succeeded).symm⟩
  · rintro ⟨user, normal, ⟨member, -, verified⟩, rfl⟩
    have found : users.byEmail.find user.email = some user := Table.find_key member
    rw [normal]
    dsimp only
    rw [found]
    dsimp only
    rw [verified]

/-- **The credentials that open the door.** After any registrations, a login succeeds, and its token
is good for the user at `/me` after any more of them, exactly if a registration of this user was
accepted with an address of the same normal form and the same password, where the context verifies
no password but the hashed one. -/
theorem credentials_iff {calls more : List RegisterCall} {issued now : Nat}
    {email password : String} {user : User} (verifies : libraries.pwdContext.Exact)
    (unexpired : now < expires settings issued) :
    (∃ answer, loginJson libraries settings (registered libraries .empty calls) issued email
          password = .ok answer ∧
        me libraries settings (registered libraries .empty (calls ++ more)) now answer.accessToken =
          .ok user) ↔
      ∃ call, Registered libraries calls call user ∧
        emailStr libraries.email call.email = emailStr libraries.email email ∧
        call.password = password := by
  have extended : registered libraries .empty (calls ++ more) =
      registered libraries (registered libraries .empty calls) more := run_append _ _ _ _
  rw [extended]
  constructor
  · rintro ⟨answer, succeeded, resolved⟩
    obtain ⟨found, normal, looked, rfl⟩ := loginJson_eq_ok.mp succeeded
    obtain ⟨-, inside, same⟩ := (getCurrentUser_createAccessToken unexpired).mp resolved
    obtain rfl : user = found :=
      Table.eq_of_key_eq _ inside (mem_registered looked.member more) same
    obtain ⟨call, accepted⟩ := mem_registered_iff.mp looked.member
    obtain ⟨address, hashed, -⟩ := accepted.stored
    have given := (verifies hashed password).mp looked.verified
    exact ⟨call, accepted, address.trans normal.symm, given.symm⟩
  · rintro ⟨call, accepted, same, rfl⟩
    obtain ⟨address, hashed, named⟩ := accepted.stored
    have member := mem_registered_iff.mpr ⟨call, accepted⟩
    have verified := (verifies hashed call.password).mpr rfl
    refine ⟨_, loginJson_eq_ok.mpr
      ⟨user, same.symm.trans address, ⟨member, rfl, verified⟩, rfl⟩, ?_⟩
    exact (getCurrentUser_createAccessToken unexpired).mpr
      ⟨named, mem_registered member more, rfl⟩

/-- The address in two spellings, neither of them normal: the form route refuses this login. -/
theorem credentials_iff_mum : ∃ answer, loginJson someLibraries someSettings
      (registered someLibraries .empty [registration "mum@HOME.org"]) 0 "mum@Home.org" "secret" =
        .ok answer ∧
    me someLibraries someSettings
      (registered someLibraries .empty ([registration "mum@HOME.org"] ++ [])) 1000000
      answer.accessToken = .ok mum := by
  have accepted : Registered someLibraries [registration "mum@HOME.org"]
      (registration "mum@HOME.org") mum := ⟨[], [], rfl, by decide +kernel⟩
  exact (credentials_iff plainContext_exact (by decide)).mpr
    ⟨registration "mum@HOME.org", accepted, by decide +kernel, rfl⟩

end ScreenSync.Auth

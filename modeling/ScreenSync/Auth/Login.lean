/-
**From registration to login.**

A registration stores the address as `EmailStr` normalises it; a login looks up the form field as it
was typed, and takes an empty field for a missing one. So the two strings that a registration has
accepted are taken by a later login exactly if the address is its own normal form and the password
is not empty.

* `registered_of_ok` — an accepted registration stores its user, under the normalised address.
* `registered_extends` — later registrations only append.
* `login_eq_ok` — what a login that succeeds has looked up.
* `getCurrentUser_createAccessToken` — before it expires, a token is resolved to the user it was
  made for.
* `login_accepts_registered_iff` — the three put together, for every sequence of registrations.
-/

import ScreenSync.Auth.Service

namespace ScreenSync.Auth

open ScreenSync.Foundation ScreenSync.Shared

variable {libraries : Libraries} {settings : Settings}

/-! ### Registration -/

theorem emailStr_ne_empty (library : EmailLibrary) (value : String) :
    emailStr library value ≠ some "" := by
  unfold emailStr
  split
  · simp
  · exact library.normalized_ne_empty _

/-- What a flush does. -/
theorem exec_flushUser (user : User) (users : Users) :
    (flushUser user).exec users =
      if fresh : users.Fresh user then (.ok (), users.insert user fresh)
      else (.error .integrityError, users) := by
  unfold flushUser
  rw [Session.exec_bind, Session.exec_get]
  dsimp only
  split <;> rfl

/-- An answered call has run to its end. -/
theorem exec_of_getDb {α : Type} {commits : Bool} {call : AuthSession α} {users next : Users}
    {answer : α} (accepted : getDb commits call users = (.ok answer, next)) :
    call.exec users = (.ok answer, next) := by
  unfold getDb at accepted
  split at accepted
  · rename_i given after executed
    split at accepted
    · rw [executed, accepted]
    · simp at accepted
  · simp at accepted

/-- What every call leaves: the users it has found, or one more. -/
theorem serveRegister_cases (libraries : Libraries) (users : Users) (call : RegisterCall) :
    (serveRegister libraries users call).2 = users ∨
      ∃ user, serveRegister libraries users call =
        (.ok user, (serveRegister libraries users call).2) := by
  unfold serveRegister getDb
  split
  · split
    · exact Or.inr ⟨_, rfl⟩
    · exact Or.inl rfl
  · exact Or.inl rfl

/-- What an accepted registration has stored. -/
structure Stored (libraries : Libraries) (users : Users) (call : RegisterCall) (user : User)
    (next : Users) : Prop where
  email : emailStr libraries.email call.email = some user.email
  hashed : libraries.pwdContext.hash call.salt call.password = some user.hashedPassword
  id : user.id ≠ ""
  rows : next.byId.rows = users.byId.rows ++ [user]

/-- **An accepted registration** stores its user, under the normalised address. -/
theorem stored_of_accepted {users next : Users} {call : RegisterCall} {user : User}
    (accepted : serveRegister libraries users call = (.ok user, next)) :
    Stored libraries users call user next := by
  have executed := exec_of_getDb accepted
  unfold register at executed
  split at executed
  · simp at executed
  rename_i email normal
  rw [Session.exec_bind, Session.exec_get] at executed
  dsimp only at executed
  split at executed
  · simp at executed
  split at executed
  · simp at executed
  rename_i hashedPassword hashed
  rw [Session.exec_bind, exec_flushUser] at executed
  by_cases fresh : users.Fresh
      { id := uuidText (uuid4 call.random), email := email, hashedPassword := hashedPassword }
  · rw [dif_pos fresh] at executed
    obtain ⟨rfl, rfl⟩ : _ = user ∧ _ = next := by
      simpa using executed
    exact ⟨normal, hashed, uuidText_ne_empty _, rfl⟩
  · rw [dif_neg fresh] at executed
    simp at executed

/-- **Later registrations only append.** -/
theorem registered_extends (users : Users) (calls : List RegisterCall) :
    users.byId.rows <+: (registered libraries users calls).byId.rows := by
  have kept : ∀ now call, users.byId.rows <+: now.byId.rows →
      users.byId.rows <+: (serveRegister libraries now call).2.byId.rows := by
    intro now call before
    obtain same | ⟨user, accepted⟩ := serveRegister_cases libraries now call
    · rw [same]
      exact before
    · rw [(stored_of_accepted accepted).rows]
      exact before.trans (List.prefix_append _ _)
  exact run_invariant (fun now call => (serveRegister libraries now call).2) kept
    (List.prefix_refl _) calls

theorem mem_registered {users : Users} {user : User} (member : user ∈ users.byId.rows)
    (calls : List RegisterCall) : user ∈ (registered libraries users calls).byId.rows :=
  (registered_extends users calls).subset member

/-! ### Login -/

/-- The user a login has found. -/
structure Found (libraries : Libraries) (users : Users) (username password : String)
    (user : User) : Prop where
  member : user ∈ users.byId.rows
  email : user.email = username
  verified : libraries.pwdContext.verify password user.hashedPassword = some true

theorem missingFields_eq_nil {username password : String} :
    missingFields [("username", username), ("password", password)] = [] ↔
      username ≠ "" ∧ password ≠ "" := by
  rw [missingFields, List.map_eq_nil_iff, List.filter_eq_nil_iff]
  simp

/-- **A login that succeeds** has two fields that are not empty, and has found a user by them. -/
theorem login_eq_ok {users : Users} {issued : Nat} {username password : String}
    {answer : LoginAnswer} :
    login libraries settings users issued username password = .ok answer ↔
      (username ≠ "" ∧ password ≠ "") ∧ ∃ user, Found libraries users username password user ∧
        answer = ⟨createAccessToken libraries settings issued user.id, "bearer"⟩ := by
  rw [← missingFields_eq_nil]
  unfold login
  constructor
  · intro succeeded
    split at succeeded
    · simp at succeeded
    rename_i complete
    split at succeeded
    · simp at succeeded
    rename_i user found
    obtain ⟨member, email⟩ := Table.find_eq_some.mp found
    split at succeeded
    · simp at succeeded
    · simp at succeeded
    rename_i verified
    exact ⟨complete, user, ⟨member, email, verified⟩, (Except.ok.inj succeeded).symm⟩
  · rintro ⟨complete, user, ⟨member, rfl, verified⟩, rfl⟩
    have found : users.byEmail.find user.email = some user := Table.find_key member
    rw [complete]
    dsimp only
    rw [found]
    dsimp only
    rw [verified]

/-! ### The token -/

/-- **Before it expires**, a token decodes to the id it was made for. -/
theorem decodeToken_createAccessToken {issued now : Nat} {userId : UserId}
    (unexpired : now < expires settings issued) :
    decodeToken libraries settings now (createAccessToken libraries settings issued userId) =
      if userId = "" then .error (unauthorized notAuthenticated) else .ok userId := by
  have valid : ¬ timegm (expires settings issued) < timegm now :=
    Nat.not_lt.mpr (Nat.div_le_div_right unexpired.le)
  have decoded : jwtDecode libraries.jws now (createAccessToken libraries settings issued userId)
      settings.secretKey =
        some { sub := some userId, exp := some (timegm (expires settings issued)) } := by
    unfold jwtDecode createAccessToken jwtEncode
    rw [libraries.jws.verify_sign]
    dsimp only
    rw [if_neg valid]
  unfold decodeToken
  rw [decoded]

/-- **A token is resolved to the user it was made for.** -/
theorem getCurrentUser_createAccessToken {users : Users} {issued now : Nat} {userId : UserId}
    {user : User} (unexpired : now < expires settings issued) :
    getCurrentUser libraries settings users now
        (createAccessToken libraries settings issued userId) = .ok user ↔
      userId ≠ "" ∧ user ∈ users.byId.rows ∧ user.id = userId := by
  unfold getCurrentUser
  rw [decodeToken_createAccessToken unexpired, ← Table.find_eq_some]
  by_cases empty : userId = ""
  · rw [if_pos empty]
    simp [empty]
  · rw [if_neg empty]
    dsimp only
    cases users.byId.find userId <;> simp [empty]

/-! ### The round trip -/

/-- A login at `issued` succeeds, and its token stands for the user at `now`, when `later` are the
users. -/
def ResolvesTo (libraries : Libraries) (settings : Settings) (users later : Users)
    (issued now : Nat) (username password : String) (user : User) : Prop :=
  ∃ answer, login libraries settings users issued username password = .ok answer ∧
    answer.tokenType = "bearer" ∧
    getCurrentUser libraries settings later now answer.accessToken = .ok user

/-- A login resolves to the user that it finds. -/
theorem resolvesTo_iff {users : Users} {issued now : Nat} {username password : String} {user : User}
    (calls : List RegisterCall) (member : user ∈ users.byId.rows) (named : user.id ≠ "")
    (unexpired : now < expires settings issued) :
    ResolvesTo libraries settings users (registered libraries users calls) issued now username
        password user ↔
      (username ≠ "" ∧ password ≠ "") ∧ Found libraries users username password user := by
  constructor
  · rintro ⟨answer, succeeded, -, resolved⟩
    obtain ⟨complete, found, looked, rfl⟩ := login_eq_ok.mp succeeded
    obtain ⟨-, -, same⟩ := (getCurrentUser_createAccessToken unexpired).mp resolved
    rw [users.byId.eq_of_key_eq member looked.member same]
    exact ⟨complete, looked⟩
  · rintro ⟨complete, found⟩
    refine ⟨_, login_eq_ok.mpr ⟨complete, user, found, rfl⟩, rfl, ?_⟩
    exact (getCurrentUser_createAccessToken unexpired).mpr ⟨named, mem_registered member calls, rfl⟩

/-- **What registration accepts, login accepts, exactly if** the address is submitted in its normal
form and the password is not empty, where a hashed password is verified and no other is. The
registrations before the login and those between the login and the use of its token are any. -/
theorem login_accepts_registered_iff {start : Users} {before after more : List RegisterCall}
    {call : RegisterCall} {user : User} {next : Users} {issued now : Nat}
    (verifies : libraries.pwdContext.Exact)
    (accepted :
      serveRegister libraries (registered libraries start before) call = (.ok user, next))
    (unexpired : now < expires settings issued) :
    ResolvesTo libraries settings (registered libraries start (before ++ call :: after))
        (registered libraries start (before ++ call :: after ++ more)) issued now call.email
        call.password user ↔
      emailStr libraries.email call.email = some call.email ∧ call.password ≠ "" := by
  have stored := stored_of_accepted accepted
  have member : user ∈ (registered libraries start (before ++ call :: after)).byId.rows := by
    have inside : user ∈ next.byId.rows := by
      rw [stored.rows]
      exact List.mem_append_right _ (List.mem_singleton_self _)
    have split : registered libraries start (before ++ call :: after) =
        registered libraries next after := by
      unfold registered at accepted ⊢
      rw [run_append, run_cons, accepted]
    rw [split]
    exact mem_registered inside after
  have nonempty : user.email ≠ "" := fun empty => emailStr_ne_empty _ _ (empty ▸ stored.email)
  have extended : registered libraries start (before ++ call :: after ++ more) =
      registered libraries (registered libraries start (before ++ call :: after)) more :=
    run_append _ _ _ _
  rw [extended, resolvesTo_iff more member stored.id unexpired, stored.email]
  constructor
  · rintro ⟨⟨-, given⟩, found⟩
    exact ⟨congrArg some found.email, given⟩
  · rintro ⟨normal, given⟩
    have same : user.email = call.email := Option.some.inj normal
    exact ⟨⟨same ▸ nonempty, given⟩, member, same,
      (verifies stored.hashed _).mpr rfl⟩

section Fixtures

/-- An address of two parts, its domain in lower case. -/
def lowerDomain (address : String) : Option String :=
  match address.toList.splitOn '@' with
  | [name, domain] => some (String.ofList (name ++ '@' :: domain.map Char.toLower))
  | _ => none

theorem lowerDomain_ne_empty (address : String) : lowerDomain address ≠ some "" := by
  unfold lowerDomain
  split
  · intro empty
    have chars := congrArg String.toList (Option.some.inj empty)
    simp at chars
  · simp

/-- A password is its own hash. -/
def plainContext : CryptContext where
  hash _ plain := if 4096 < plain.length then none else some plain
  verify plain hashed := if 4096 < plain.length then none else some (plain = hashed)

theorem plainContext_exact : plainContext.Exact := by
  intro salt plain hashed stored other
  obtain ⟨short, rfl⟩ : ¬ 4096 < plain.length ∧ plain = hashed := by
    simpa [plainContext] using stored
  by_cases same : other = plain
  · simp [plainContext, same, short]
  · simp [plainContext, same]

/-- Claims as text: the second in strokes, a dot and the subject. -/
def strokes (claims : Claims) : List Char :=
  List.replicate (claims.exp.elim 0 Nat.succ) '|' ++
    '.' :: claims.sub.elim [] fun sub => '=' :: sub.toList

def readStrokes (token : List Char) : Option Claims :=
  let exp := match (token.takeWhile (· = '|')).length with
    | 0 => none
    | n + 1 => some n
  match token.dropWhile (· = '|') with
  | ['.'] => some ⟨none, exp⟩
  | '.' :: '=' :: sub => some ⟨some (String.ofList sub), exp⟩
  | _ => none

theorem readStrokes_strokes (claims : Claims) : readStrokes (strokes claims) = some claims := by
  obtain ⟨sub, exp⟩ := claims
  have all : ∀ n, ∀ c ∈ List.replicate n '|', decide (c = '|') = true := by
    intro n c member
    exact decide_eq_true (List.eq_of_mem_replicate member)
  unfold readStrokes strokes
  rw [List.takeWhile_append_of_pos (all _), List.dropWhile_append_of_pos (all _)]
  cases sub <;> cases exp <;> simp

def someLibraries : Libraries where
  email := ⟨fun _ => none, lowerDomain, lowerDomain_ne_empty⟩
  pwdContext := plainContext
  jws :=
    { sign := fun claims _ => String.ofList (strokes claims)
      verify := fun token _ => readStrokes token.toList
      verify_sign := fun claims _ => by rw [String.toList_ofList, readStrokes_strokes] }

def someSettings : Settings := ⟨"change-me-in-production", 1440⟩

/-- A registration of an address. -/
def registration (email : String) : RegisterCall := ⟨email, "secret", 0, "", true⟩

def mum : User := ⟨"00000000-0000-4000-8000-000000000000", "mum@home.org", "secret"⟩

end Fixtures

/-- An address in its normal form is taken. -/
theorem login_accepts_registered_mum :
    (serveRegister someLibraries .empty (registration "mum@home.org")).1 = .ok mum ∧
      ResolvesTo someLibraries someSettings
        (registered someLibraries .empty [registration "mum@home.org"])
        (registered someLibraries .empty [registration "mum@home.org"]) 0 1000000
        "mum@home.org" "secret" mum := by
  have accepted :
      (serveRegister someLibraries .empty (registration "mum@home.org")).1 = .ok mum := by
    decide +kernel
  have resolves := @login_accepts_registered_iff someLibraries someSettings .empty [] [] []
    (registration "mum@home.org") mum _ 0 1000000 plainContext_exact (Prod.ext accepted rfl)
    (by decide)
  exact ⟨accepted, resolves.mpr ⟨by decide +kernel, by decide⟩⟩

/-- **An address in another spelling is refused**: `mum@HOME.org` is stored as `mum@home.org`, and a
login with the two strings that were accepted is told that they are invalid. -/
theorem registered_spelling_refused :
    (serveRegister someLibraries .empty (registration "mum@HOME.org")).1 = .ok mum ∧
      ¬ ResolvesTo someLibraries someSettings
        (registered someLibraries .empty [registration "mum@HOME.org"])
        (registered someLibraries .empty [registration "mum@HOME.org"]) 0 1000000
        "mum@HOME.org" "secret" mum := by
  refine ⟨by decide +kernel, ?_⟩
  rintro ⟨answer, succeeded, -⟩
  have refused : login someLibraries someSettings
      (registered someLibraries .empty [registration "mum@HOME.org"]) 0 "mum@HOME.org" "secret" =
        .error (unauthorized "Invalid credentials") := by
    decide +kernel
  rw [refused] at succeeded
  simp at succeeded

end ScreenSync.Auth

/-
**The auth service.**

The mounted routes of `auth_service/oauth.py` over the table of users. `register` takes a JSON body
whose address goes through `EmailStr`; `login` takes two form fields as they come. A token is a
signed set of claims.

* `Users` — no two users share an id, and no two share an address.
* `emailStr` — what `EmailStr` makes of a submitted text.
* `register`, `login`, `getCurrentUser` — the two routes, and the dependency that turns a token back
  into a user.
-/

import ScreenSync.Foundation.Run
import ScreenSync.Foundation.Session
import ScreenSync.Foundation.Table
import ScreenSync.Shared.Database

namespace ScreenSync.Auth

open ScreenSync.Foundation ScreenSync.Shared

/-! ### `users` -/

/-- A row of `users`. -/
structure User where
  id : UserId
  email : String
  hashedPassword : String
  deriving DecidableEq

/-- The rows of `users`: `id` is the primary key and `email` is unique. -/
structure Users where
  byId : Table User.id
  distinct : (byId.rows.map User.email).Nodup

namespace Users

def empty : Users := ⟨.empty, List.nodup_nil⟩

/-- The same rows by their addresses. -/
def byEmail (users : Users) : Table User.email := ⟨users.byId.rows, users.distinct⟩

/-- A user whose id and address are free. -/
structure Fresh (users : Users) (user : User) : Prop where
  id : users.byId.find user.id = none
  email : users.byEmail.find user.email = none

instance (users : Users) (user : User) : Decidable (users.Fresh user) :=
  decidable_of_iff (users.byId.find user.id = none ∧ users.byEmail.find user.email = none)
    ⟨fun both => ⟨both.1, both.2⟩, fun fresh => ⟨fresh.id, fresh.email⟩⟩

def insert (users : Users) (user : User) (fresh : users.Fresh user) : Users where
  byId := users.byId.insert user fresh.id
  distinct := (users.byEmail.insert user fresh.email).unique

end Users

/-! ### What the libraries do -/

/-- The whitespace that `str.strip` removes. -/
def isSpace (c : Char) : Bool :=
  c.toNat ∈ [0x09, 0x0A, 0x0B, 0x0C, 0x0D, 0x1C, 0x1D, 0x1E, 0x1F, 0x20, 0x85, 0xA0, 0x1680, 0x2000,
    0x2001, 0x2002, 0x2003, 0x2004, 0x2005, 0x2006, 0x2007, 0x2008, 0x2009, 0x200A, 0x2028, 0x2029,
    0x202F, 0x205F, 0x3000]

/-- `str.strip`. -/
def strip (text : String) : String :=
  String.ofList (((text.toList.dropWhile isSpace).reverse.dropWhile isSpace).reverse)

/-- `MAX_EMAIL_LENGTH`. -/
def maxEmailLength : Nat := 2048

/-- What `EmailStr` rests on: the address group of `pretty_email_regex` where it matches the whole
text, and `email_validator`, which normalises an address or refuses it. -/
structure EmailLibrary where
  prettyAddress : String → Option String
  normalized : String → Option String
  normalized_ne_empty : ∀ address, normalized address ≠ some ""

/-- `validate_email`. -/
def emailStr (library : EmailLibrary) (value : String) : Option String :=
  if maxEmailLength < value.length then none
  else library.normalized (strip ((library.prettyAddress value).getD value))

/-- `CryptContext`. Both methods raise on a password that is too long. -/
structure CryptContext where
  hash : String → String → Option String
  verify : String → String → Option Bool

/-- The context verifies a password that was hashed, and no other. -/
def CryptContext.Exact (context : CryptContext) : Prop :=
  ∀ ⦃salt plain hashed⦄, context.hash salt plain = some hashed →
    ∀ other, context.verify other hashed = some true ↔ other = plain

/-- The claims of a token: its subject, and the second from which on it has expired. -/
structure Claims where
  sub : Option UserId
  exp : Option Nat
  deriving DecidableEq

/-- `jws.sign` and `jws.verify`, for one key and the JSON text of the claims. -/
structure Jws where
  sign : Claims → String → String
  verify : String → String → Option Claims
  verify_sign : ∀ claims key, verify (sign claims key) key = some claims

/-- What the service is built with. -/
structure Libraries where
  email : EmailLibrary
  pwdContext : CryptContext
  jws : Jws

/-- `settings`. -/
structure Settings where
  secretKey : String
  accessTokenExpireMinutes : Nat

/-- The seconds of a clock of microseconds. -/
def timegm (micros : Nat) : Nat := micros / 1000000

/-- `jwt.encode`. -/
def jwtEncode (jws : Jws) (sub : UserId) (expire : Nat) (key : String) : String :=
  jws.sign { sub := some sub, exp := some (timegm expire) } key

/-- `jwt.decode`; `none` is a `JWTError`. -/
def jwtDecode (jws : Jws) (now : Nat) (token key : String) : Option Claims :=
  match jws.verify token key with
  | none => none
  | some claims =>
    match claims.exp with
    | none => some claims
    | some exp => if exp < timegm now then none else some claims

/-- The bits of `uuid.uuid4()`: the version and the variant are fixed. -/
def uuid4 (random : BitVec 128) : BitVec 128 :=
  let variant := random &&& ~~~(0xc000#128 <<< 48) ||| 0x8000#128 <<< 48
  variant &&& ~~~(0xf000#128 <<< 64) ||| 4#128 <<< 76

/-- The hexadecimal digits of a UUID. -/
def hexDigits (bits : BitVec 128) : List Char :=
  (List.range 32).reverse.map fun place => Nat.digitChar (bits.toNat / 16 ^ place % 16)

/-- `str` of a UUID. -/
def uuidText (bits : BitVec 128) : String :=
  let hex := hexDigits bits
  String.ofList (hex.take 8 ++ '-' :: (hex.drop 8).take 4 ++ '-' :: (hex.drop 12).take 4 ++
    '-' :: (hex.drop 16).take 4 ++ '-' :: hex.drop 20)

theorem uuidText_ne_empty (bits : BitVec 128) : uuidText bits ≠ "" := by
  intro empty
  have chars := congrArg String.toList empty
  simp [uuidText] at chars

/-! ### The routes -/

/-- What a route may raise: an `HTTPException`, a 422 with the fields it is about, and what the
database and `passlib` raise. -/
inductive AuthError
  | http (statusCode : Nat) (detail : String)
  | requestValidation (fields : List String)
  | integrityError
  | passwordSizeError
  deriving DecidableEq

def unauthorized (detail : String) : AuthError := .http 401 detail

def notAuthenticated : String := "Not authenticated"

def conflictError (detail : String) : AuthError := .http 409 detail

abbrev AuthSession (α : Type) := Session AuthError Users α

/-- `get_db`. -/
def getDb {α : Type} (commits : Bool) (call : AuthSession α) (users : Users) :
    Except AuthError α × Users :=
  match call.exec users with
  | (.ok answer, next) => if commits then (.ok answer, next) else (.error .integrityError, users)
  | (.error error, _) => (.error error, users)

section Routes

variable (libraries : Libraries) (settings : Settings)

/-- A JSON body of `/register`, with what the call draws: the bits of the id and the salt; and
whether its commit goes through. -/
structure RegisterCall where
  email : String
  password : String
  random : BitVec 128
  salt : String
  commits : Bool

/-- The flush of a new user. -/
def flushUser (user : User) : AuthSession Unit := do
  let users ← get
  if fresh : users.Fresh user then set (users.insert user fresh)
  else throw .integrityError

/-- `register`. -/
def register (call : RegisterCall) : AuthSession User := do
  match emailStr libraries.email call.email with
  | none => throw (.requestValidation ["email"])
  | some email =>
    let users ← get
    match users.byEmail.find email with
    | some _ => throw (conflictError "Email already registered")
    | none =>
      match libraries.pwdContext.hash call.salt call.password with
      | none => throw .passwordSizeError
      | some hashedPassword =>
        let user : User := { id := uuidText (uuid4 call.random), email, hashedPassword }
        flushUser user
        return user

/-- One call of `/register`. -/
def serveRegister (users : Users) (call : RegisterCall) : Except AuthError User × Users :=
  getDb call.commits (register libraries call) users

/-- The users after a sequence of calls of `/register`. -/
def registered (users : Users) (calls : List RegisterCall) : Users :=
  run (fun users call => (serveRegister libraries users call).2) users calls

/-- The instant at which a token expires. -/
def expires (issued : Nat) : Nat := issued + settings.accessTokenExpireMinutes * 60000000

/-- `create_access_token`. -/
def createAccessToken (issued : Nat) (userId : UserId) : String :=
  jwtEncode libraries.jws userId (expires settings issued) settings.secretKey

/-- `decode_token`. -/
def decodeToken (now : Nat) (token : String) : Except AuthError UserId :=
  match jwtDecode libraries.jws now token settings.secretKey with
  | none => .error (unauthorized "Invalid or expired token")
  | some claims =>
    match claims.sub with
    | none => .error (unauthorized notAuthenticated)
    | some userId => if userId = "" then .error (unauthorized notAuthenticated) else .ok userId

/-- `get_current_user`. -/
def getCurrentUser (users : Users) (now : Nat) (token : String) : Except AuthError User :=
  match decodeToken libraries settings now token with
  | .error error => .error error
  | .ok userId =>
    match users.byId.find userId with
    | none => .error (unauthorized "User no longer exists")
    | some user => .ok user

/-- The answer of `/login`. -/
structure LoginAnswer where
  accessToken : String
  tokenType : String
  deriving DecidableEq

/-- The form fields that are missing; an empty one counts as missing. -/
def missingFields (form : List (String × String)) : List String :=
  (form.filter fun field => field.2 = "").map Prod.fst

/-- `login`, at an instant of the clock. -/
def login (users : Users) (issued : Nat) (username password : String) :
    Except AuthError LoginAnswer :=
  match missingFields [("username", username), ("password", password)] with
  | field :: fields => .error (.requestValidation (field :: fields))
  | [] =>
    match users.byEmail.find username with
    | none => .error (unauthorized "Invalid credentials")
    | some user =>
      match libraries.pwdContext.verify password user.hashedPassword with
      | none => .error .passwordSizeError
      | some false => .error (unauthorized "Invalid credentials")
      | some true => .ok
        { accessToken := createAccessToken libraries settings issued user.id
          tokenType := "bearer" }

end Routes

end ScreenSync.Auth

import Dreamscroll.Api.ApiError
import Dreamscroll.Common.ParseInt
import Dreamscroll.Common.Procedure
import Dreamscroll.Common.Sql
import Dreamscroll.Common.Whitespace
/-!
# Accounts

The users of the system and how the API recognises them: by a password,
which gets them a token, and from then on by the token. Passwords are changed
by their users. Users are created by admins, over the API or on the command
line, and admins are made on the command line. All of it runs at once, one
statement of the database after another.

The crates that hash passwords and sign tokens are parameters. The sessions of
the web UI write no account and give out no token, and are left out.
-/

namespace Dreamscroll

/-- `ApiError::unauthorized`. -/
def ApiError.unauthorized (error : String) : ApiError := ApiError.new 401 error

namespace Auth

/-! ## Users -/

/-- A row of `users`. -/
structure UserModel where
  id : ℤ
  username : String
  email : String
  passwordHash : String
  isAdmin : Bool
  storageShard : String
  deriving DecidableEq

/-- Claims embedded in a token. -/
structure JwtUserClaims where
  sub : String
  username : String
  isAdmin : Bool
  exp : ℕ
  iat : ℕ
  storageShard : String
  deriving DecidableEq

/-- The authentication method used to create a user session. -/
inductive AuthMethod
  | session (sessionHash : String)
  | jwt (claims : JwtUserClaims)
  deriving DecidableEq

/-- A user a request acts for, and how it was let in. -/
structure DreamscrollAuthUser where
  id : ℤ
  username : String
  isAdmin : Bool
  storageShard : String
  method : AuthMethod
  deriving DecidableEq

/-- Why a request or a command is not let in. -/
inductive AuthError
  | database (error : String)
  | invalidCredentials
  | passwordHashError (error : String)
  | missingOrInvalidHeader
  | invalidToken
  | tokenCreation (message : String)
  deriving DecidableEq

/-- `Display`. -/
def AuthError.message : AuthError → String
  | database error => "Database error: " ++ error
  | invalidCredentials => "Invalid credentials"
  | passwordHashError error => "Password hash error: " ++ error
  | missingOrInvalidHeader => "Missing or invalid Authorization header"
  | invalidToken => "Invalid or expired token"
  | tokenCreation message => "Token creation failed: " ++ message

/-- The user of a row that was let in by its password. -/
def DreamscrollAuthUser.fromDbModel (row : UserModel) : DreamscrollAuthUser where
  id := row.id
  username := row.username
  isAdmin := row.isAdmin
  storageShard := row.storageShard
  method := .session row.passwordHash

/-- `TryFrom<JwtUserClaims>`: the subject is a decimal string. -/
def DreamscrollAuthUser.tryFrom (claims : JwtUserClaims) : Except AuthError DreamscrollAuthUser :=
  match parseI32 claims.sub.toList with
  | .error _ => .error .invalidToken
  | .ok id => .ok ⟨id, claims.username, claims.isAdmin, claims.storageShard, .jwt claims⟩

/-- What the code takes from `argon2` and `jsonwebtoken`. -/
structure Crypto where
  /-- `hash_password`, with the salt it draws. -/
  hashPassword : (salt password : String) → Except String String
  verifyPassword : (passwordHash password : String) → Except String Bool
  /-- `encode`, with the key of the process. -/
  encode : JwtUserClaims → Except AuthError String
  /-- `decode`, with its validation at a time. -/
  decode : (leeway now : ℕ) → String → Except AuthError JwtUserClaims

/-- `JwtConfig`, less its keys: the times in seconds. -/
structure JwtConfig where
  userExpirationSecs : ℕ
  leeway : ℕ

namespace JwtConfig

/-- `from_secret`. -/
def fromSecret : JwtConfig := ⟨24 * 60 * 60, 0⟩

/-- The claims of `create_user_token`. -/
def claims (config : JwtConfig) (user : DreamscrollAuthUser) (now : ℕ) : JwtUserClaims where
  sub := toString user.id
  username := user.username
  isAdmin := user.isAdmin
  exp := now + config.userExpirationSecs
  iat := now
  storageShard := user.storageShard

variable (crypto : Crypto)

/-- `create_user_token`: the claims of the user at this time, signed. -/
def createUserToken (config : JwtConfig) (user : DreamscrollAuthUser) (now : ℕ) :
    Except AuthError String := crypto.encode (config.claims user now)

/-- `decode_user_token`: the claims, if the signature is ours and the token is
live. -/
def decodeUserToken (config : JwtConfig) (now : ℕ) (token : String) :
    Except AuthError JwtUserClaims := crypto.decode config.leeway now token

/-- `FromRequestParts`, of a request with this bearer token, if it has one. -/
def fromRequestParts (config : JwtConfig) (now : ℕ) :
    Option String → Except AuthError DreamscrollAuthUser
  | none => .error .missingOrInvalidHeader
  | some token => do
    let claims ← config.decodeUserToken crypto now token
    DreamscrollAuthUser.tryFrom claims

end JwtConfig

/-! ## What happened -/

/-- Who creates a user. -/
inductive Creator
  /-- `first_user`, which has counted none. -/
  | firstUser (countedAt : ℕ)
  /-- An admin whom a token has let in. -/
  | admin (user : DreamscrollAuthUser)
  /-- An admin on the command line, authenticated with the password of the
  row that was read. -/
  | password (row : UserModel) (readAt : ℕ) (presented : String)
  deriving DecidableEq

/-- The log of the rows that were written, the tokens that were given out,
and the requests that were let in. A `password` is the account's from then
on, `presented` is what a caller has shown for it. -/
inductive Entry
  | inserted (now : ℕ) (creator : Creator) (row : UserModel) (password : String)
  | changed (now readAt : ℕ) (user : DreamscrollAuthUser) (row : UserModel)
      (presented password : String)
  | flagged (now : ℕ) (row : UserModel)
  /-- A token, for the row as it was read. -/
  | issued (now readAt : ℕ) (row : UserModel) (presented token : String)
  | accepted (now : ℕ) (token : String) (user : DreamscrollAuthUser)
  deriving DecidableEq

/-- The users table with its sequence, the clock, and all that happened to the
accounts so far. -/
structure Accounts where
  /-- In seconds. -/
  now : ℕ
  users : List UserModel
  sequence : Sequence
  log : List Entry

namespace Accounts

variable (x : Accounts)

/-- A deployment with no user. -/
def start (now : ℕ) : Accounts := ⟨now, [], ⟨0⟩, []⟩

/-- The `SELECT` by the username, which is unique. -/
def findByUsername (username : String) : Option UserModel :=
  x.users.find? fun row => row.username = username

/-- And by the shard, to find one that is free. -/
def findByStorageShard (storageShard : String) : Option UserModel :=
  x.users.find? fun row => row.storageShard = storageShard

/-- And by the key. -/
def findById (id : ℤ) : Option UserModel := x.users.find? fun row => row.id = id

/-- The entry is the last that happened. -/
def record (entry : Entry) : Accounts := { x with log := x.log ++ [entry] }

/-- An update of some columns by id, which leaves the others alone. -/
def update (id : ℤ) (f : UserModel → UserModel) : Accounts :=
  { x with users := x.users.map fun row => if row.id = id then f row else row }

end Accounts

/-! ## The calls -/

/-- What the command line asks of a new user. -/
structure NewUser where
  username : String
  password : String
  email : String

/-- What a caller with a token may ask for. -/
inductive Action
  /-- A route of which only the caller matters here. -/
  | other
  | createUser (new : NewUser)
  | changePassword (currentPassword newPassword : String)

/-- What is asked of the accounts: by a request with a token or none, or on
the command line. -/
inductive Op
  | authorized (token : Option String) (action : Action)
  /-- `POST /api/token`. -/
  | authenticate (username password : String)
  /-- `first_user` on the command line. -/
  | firstUser (username password₁ password₂ : String)
  /-- `create_user` on the command line, with the lines it has read. -/
  | createUser (adminUsername adminPassword : String) (new : NewUser)
  /-- `set_admin` on the command line. -/
  | setAdmin (username : String) (revoke : Bool)
  | tick (seconds : ℕ)

/-- What a statement reads from outside. -/
structure Input where
  /-- The error the database refuses the statement with. -/
  dbError : Option String
  /-- What `hash_password` draws. -/
  salt : String
  /-- What `generate_storage_shard` draws. -/
  storageShard : String

/-- The statement a call is at, with what it has read. What is only for the
log is the password that was presented and the time of a reading. -/
inductive Place
  | extract (token : Option String) (action : Action)
  | checkUsername (creator : Creator) (new : NewUser)
  | checkShard (creator : Creator) (new : NewUser) (passwordHash : String) (attempt : ℕ)
  | insertUser (creator : Creator) (new : NewUser) (passwordHash storageShard : String)
  | findAccount (user : DreamscrollAuthUser) (currentPassword newPassword : String)
  | updatePassword (user : DreamscrollAuthUser) (row : UserModel) (readAt : ℕ)
      (currentPassword newPassword passwordHash : String)
  | authenticate (username password : String)
  | createToken (row : UserModel) (readAt : ℕ) (presented : String)
  | authenticateAdmin (username password : String) (new : NewUser)
  | countUsers (username password₁ password₂ : String)
  | findAdmin (username : String) (isAdmin : Bool)
  | updateAdmin (row : UserModel) (isAdmin : Bool)
  | tick (seconds : ℕ)

/-- What comes of it. -/
inductive Answer
  /-- The extractor rejects the request. -/
  | rejected (error : AuthError)
  | failed (error : ApiError)
  | done
  | accessToken (token : String)
  /-- The error of a command line tool. -/
  | bailed (error : String)

/-- `MIN_PASSWORD_LENGTH`, in bytes. -/
def minPasswordLength : ℕ := 8

/-- `MAX_SHARD_RETRIES`. -/
def maxShardRetries : ℕ := 10

variable (crypto : Crypto) (config : JwtConfig)

/-- `verify_hash`, of a row that was found by its username: `authenticate`
from there on. -/
def authenticated (row : Option UserModel) (password : String) : Except AuthError UserModel :=
  match row with
  | none => .error .invalidCredentials
  | some row =>
    match crypto.verifyPassword row.passwordHash password with
    | .error error => .error (.passwordHashError error)
    | .ok true => .ok row
    | .ok false => .error .invalidCredentials

/-- What an action starts with, for the caller the extractor found. -/
def Action.begin (user : DreamscrollAuthUser) : Action → Place ⊕ Answer
  | .other => .inr .done
  | .createUser new =>
    if user.isAdmin then .inl (.checkUsername (.admin user) new)
    else .inr (.failed (ApiError.forbidden "Only admin users can perform this operation"))
  | .changePassword currentPassword newPassword =>
    if Content.trim newPassword = "" then
      .inr (.failed (ApiError.badRequest "New password cannot be empty"))
    else if newPassword.utf8ByteSize < minPasswordLength then
      .inr (.failed (ApiError.badRequest "New password must be at least 8 characters"))
    else if currentPassword = newPassword then
      .inr (.failed (ApiError.badRequest
        "New password must be different from current password"))
    else .inl (.findAccount user currentPassword newPassword)

/-- Where an operation begins. The command line trims the names it reads, and
no password. -/
def Op.start : Op → Place
  | .authorized token action => .extract token action
  | .authenticate username password => .authenticate username password
  | .firstUser username password₁ password₂ => .countUsers username password₁ password₂
  | .createUser adminUsername adminPassword new =>
    .authenticateAdmin (Content.trim adminUsername) adminPassword
      ⟨Content.trim new.username, new.password, Content.trim new.email⟩
  | .setAdmin username revoke => .findAdmin username (!revoke)
  | .tick seconds => .tick seconds

/-- Whether a new user is an admin. -/
def Creator.isAdmin : Creator → Bool
  | .firstUser _ => true
  | .admin _ | .password .. => false

/-- What a failed creation is to its caller: a response, or the error of the
command line tool. -/
def Creator.failure : Creator → ApiError → Answer
  | .admin _, e => .failed e
  | .firstUser _, e | .password .., e => .bailed e.message

/-- The insert of a user, whose username and shard are unique. -/
def insertUser (x : Accounts) (creator : Creator) (new : NewUser)
    (passwordHash storageShard : String) : Accounts × (Place ⊕ Answer) :=
  match x.sequence.nextval with
  | none =>
    (x, .inr (creator.failure (ApiError.internal
      "nextval: reached maximum value of sequence \"users_id_seq\"")))
  | some sequence =>
    -- the key is drawn before the unique keys are checked, and is not given back
    let drawn : Accounts := { x with sequence }
    if (x.findByUsername new.username).isSome then
      (drawn, .inr (creator.failure (ApiError.internal
        "duplicate key value violates unique constraint \"users_username_key\"")))
    else if (x.findByStorageShard storageShard).isSome then
      (drawn, .inr (creator.failure (ApiError.internal
        "duplicate key value violates unique constraint \"users_storage_shard_key\"")))
    else
      let row : UserModel :=
        { id := sequence.last, username := new.username, email := new.email, passwordHash,
          isAdmin := creator.isAdmin, storageShard }
      ({ drawn with users := x.users ++ [row] }.record
        (.inserted x.now creator row new.password), .inr .done)

/-- A statement that only reads, or its failure. -/
def reads (x : Accounts) (input : Input) (failure : String → Answer)
    (outcome : Place ⊕ Answer) : Accounts × (Place ⊕ Answer) :=
  match input.dbError with
  | some error => (x, .inr (failure error))
  | none => (x, outcome)

/-- **The next statement of a call.** -/
def next (input : Input) (x : Accounts) : Place → Accounts × (Place ⊕ Answer)
  | .extract token action =>
    match config.fromRequestParts crypto x.now token with
    | .error error => (x, .inr (.rejected error))
    | .ok user => (x.record (.accepted x.now (token.getD "") user), action.begin user)
  | .checkUsername creator new =>
    reads x input (fun error => creator.failure (ApiError.internal
        ("DB error checking existing username " ++ new.username ++ ": " ++ error))) <|
      if (x.findByUsername new.username).isSome then
        .inr (creator.failure (ApiError.conflict
          ("Username " ++ new.username ++ " already exists")))
      else
        match crypto.hashPassword input.salt new.password with
        | .error error => .inr (creator.failure (ApiError.internal
            ("Password hashing failed for user " ++ new.username ++ ": " ++
              (AuthError.passwordHashError error).message)))
        | .ok passwordHash => .inl (.checkShard creator new passwordHash 0)
  | .checkShard creator new passwordHash attempt =>
    reads x input (fun error => creator.failure (ApiError.internal
        ("DB error checking storage shard uniqueness: " ++ error))) <|
      if (x.findByStorageShard input.storageShard).isNone then
        .inl (.insertUser creator new passwordHash input.storageShard)
      else if attempt + 1 < maxShardRetries then
        .inl (.checkShard creator new passwordHash (attempt + 1))
      else
        .inr (creator.failure (ApiError.internal
          "Failed to generate unique storage shard after 10 attempts"))
  | .insertUser creator new passwordHash storageShard =>
    match input.dbError with
    | some error => (x, .inr (creator.failure (ApiError.internal error)))
    | none => insertUser x creator new passwordHash storageShard
  | .findAccount user currentPassword newPassword =>
    reads x input (fun error => .failed (ApiError.internal error)) <|
      match x.findById user.id with
      | none => .inr (.failed (ApiError.unauthorized "Authenticated user not found"))
      | some row =>
        match crypto.verifyPassword row.passwordHash currentPassword with
        | .error error => .inr (.failed (ApiError.internal
            ("Current password verification failed: " ++
              (AuthError.passwordHashError error).message)))
        | .ok false => .inr (.failed (ApiError.unauthorized "Invalid current password"))
        | .ok true =>
          match crypto.hashPassword input.salt newPassword with
          | .error error => .inr (.failed (ApiError.internal
              ("Password hashing failed: " ++ (AuthError.passwordHashError error).message)))
          | .ok passwordHash =>
            .inl (.updatePassword user row x.now currentPassword newPassword passwordHash)
  | .updatePassword user row readAt currentPassword newPassword passwordHash =>
    match input.dbError, x.findById row.id with
    | some error, _ => (x, .inr (.failed (ApiError.internal error)))
    | none, none => (x, .inr (.failed (ApiError.internal "None of the records are updated")))
    | none, some current =>
      -- only the column that was set is written
      ((x.update row.id fun row => { row with passwordHash }).record
        (.changed x.now readAt user { current with passwordHash } currentPassword newPassword),
        .inr .done)
  | .authenticate username password =>
    -- the route tells no failure from another
    reads x input (fun _ => .failed (ApiError.unauthorized "Invalid credentials")) <|
      match authenticated crypto (x.findByUsername username) password with
      | .error _ => .inr (.failed (ApiError.unauthorized "Invalid credentials"))
      | .ok row => .inl (.createToken row x.now password)
  | .createToken row readAt presented =>
    match config.createUserToken crypto (.fromDbModel row) x.now with
    | .error error =>
      (x, .inr (.failed (ApiError.internal ("Token creation failed: " ++ error.message))))
    | .ok token => (x.record (.issued x.now readAt row presented token), .inr (.accessToken token))
  | .authenticateAdmin username password new =>
    reads x input (fun error => .bailed (AuthError.database error).message) <|
      match authenticated crypto (x.findByUsername username) password with
      | .error error => .inr (.bailed error.message)
      | .ok row =>
        if row.isAdmin then .inl (.checkUsername (.password row x.now password) new)
        else .inr (.bailed "Authenticated user is not an admin")
  | .countUsers username password₁ password₂ =>
    reads x input .bailed <|
      if 0 < x.users.length then .inr .done
      else if password₁ ≠ password₂ then .inr (.bailed "Passwords do not match")
      else
        match crypto.hashPassword input.salt password₁ with
        | .error error => .inr (.bailed (AuthError.passwordHashError error).message)
        | .ok passwordHash =>
          .inl (.insertUser (.firstUser x.now) ⟨Content.trim username, password₁, "REPLACE_ME"⟩
            passwordHash input.storageShard)
  | .findAdmin username isAdmin =>
    reads x input .bailed <|
      match x.findByUsername username with
      | none => .inr (.bailed ("No user named '" ++ username ++ "'"))
      | some row => if row.isAdmin = isAdmin then .inr .done else .inl (.updateAdmin row isAdmin)
  | .updateAdmin row isAdmin =>
    match input.dbError, x.findById row.id with
    | some error, _ => (x, .inr (.bailed error))
    | none, none => (x, .inr (.bailed "None of the records are updated"))
    | none, some current =>
      ((x.update row.id fun row => { row with isAdmin }).record
        (.flagged x.now { current with isAdmin }), .inr .done)
  | .tick seconds => ({ x with now := x.now + seconds }, .inr .done)

/-- Any number of calls at once, one statement after another. -/
def procedure : Procedure Accounts Op Input Place Answer where
  start := Op.start
  next _ input x place := next crypto config input x place

end Auth

end Dreamscroll

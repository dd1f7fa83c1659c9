import MessagingSystem.Foundation.Faults
import MessagingSystem.Foundation.Requests
import MessagingSystem.Source.Server.Auth

/-!
# Registration

`postRegister` and `postGuest` of `controllers/auth.ts`, with `createUser` and
`createGuestUser`, one command for each awaited call. The mail with the
verification token is left out: its errors are caught and it writes to no store.
So is the check that guest sessions are enabled, which runs before the handler
and only reads.
-/
namespace MessagingSystem.Source.Server.Registration
open Foundation

/-- A document of `users`. -/
structure UserDocument where
  id : String
  email : Option String := none
  username : Option String
  passwordHash : String
  displayName : Option String
  profilePicture : Option String
  status : Option String
  emailVerified : Bool
  isGuest : Option Bool := none
  guestDataExpiresAt : Option Nat := none
  refreshTokenVersion : Option Nat
  lastSeenAt : Option Nat
  createdAt : Nat
  updatedAt : Nat
  deriving DecidableEq

structure RegisterRequest where
  email : String
  password : String
  username : String
  displayName : String
  profilePicture : Nullable String := .undefined
  status : Nullable String := .undefined
  sourceDeviceId : Nullable String := .undefined

structure GuestRequest where
  username : String
  displayName : Option String := none
  sourceDeviceId : Nullable String := .undefined

/-- `UserApiShape`. -/
structure UserApiShape where
  id : String
  email : Option String
  username : Option String
  displayName : Option String
  emailVerified : Bool
  profilePicture : Option String
  status : Option String
  guest : Bool

def toUserApiShape (doc : UserDocument) : UserApiShape where
  id := doc.id
  email := doc.email
  username := doc.username
  displayName := doc.displayName
  emailVerified := doc.emailVerified
  profilePicture := doc.profilePicture
  status := doc.status
  guest := doc.isGuest = some true

/-- The random ids of a request, and its time in milliseconds. -/
structure RegistrationDraws where
  id : String
  guestPassword : String := ""
  now : Nat

/-- The settings of the two handlers. -/
structure RegistrationEnv where
  REGISTER_RATE_LIMIT_WINDOW_SEC : Nat
  REGISTER_RATE_LIMIT_MAX : Nat
  GUEST_AUTH_RATE_LIMIT_WINDOW_SEC : Nat
  GUEST_AUTH_RATE_LIMIT_MAX_PER_IP : Nat
  GUEST_AUTH_RATE_LIMIT_MAX_PER_FINGERPRINT : Nat
  GUEST_DATA_MONGODB_TTL_SECONDS : Nat
  fingerprintRedisKeySegment : String → String

/-- The unique indexes of `users`. -/
inductive UserIndex where
  | email | id | username
  deriving DecidableEq

/-- The users, and the other stores. -/
structure RegistrationStore where
  users : List UserDocument := []
  stores : AuthStore := {}

/-- The awaited calls besides those of `AuthCommand`. -/
inductive UserCommand : Type → Type where
  | hashPassword (plain : String) : UserCommand String
  /-- `insertOne`, answered by the index that a duplicate key violates. -/
  | insertUser (doc : UserDocument) : UserCommand (Option UserIndex)
  | signEmailVerificationToken (userId email : String) (now : Nat) : UserCommand (Except AppError String)
  | signAccessToken (userId : String) (emailVerified : Bool) (options : SignAccessTokenOptions)
      (now : Nat) : UserCommand (Except AppError (String × Nat))

inductive RegistrationCommand (β : Type) : Type where
  | auth (c : AuthCommand β)
  | user (c : UserCommand β)

abbrev RegistrationProgram (α : Type) := Program RegistrationCommand AppError α

/-- The index a new document violates; both sparse ones pass over absent values. -/
def duplicateKey (users : List UserDocument) (doc : UserDocument) : Option UserIndex :=
  if doc.email.isSome ∧ users.any (fun u => u.email = doc.email) then some .email
  else if users.any (fun u => u.id = doc.id) then some .id
  else if doc.username.isSome ∧ users.any (fun u => u.username = doc.username) then some .username
  else none

section Exec

variable (svc : AuthService)

def UserCommand.exec : {β : Type} → UserCommand β → List UserDocument → β × List UserDocument
  | _, .hashPassword plain, users => (svc.hashPassword plain, users)
  | _, .insertUser doc, users =>
      match duplicateKey users doc with
      | some index => (some index, users)
      | none => (none, users ++ [doc])
  | _, .signEmailVerificationToken userId email now, users =>
      (Server.signEmailVerificationToken svc.jose svc.env userId email now, users)
  | _, .signAccessToken userId emailVerified options now, users =>
      (Server.signAccessToken svc.jose svc.env userId emailVerified options now, users)

def RegistrationCommand.exec {β : Type} : RegistrationCommand β → RegistrationStore → β × RegistrationStore
  | .auth c, s => ((c.exec svc s.stores).1, { s with stores := (c.exec svc s.stores).2 })
  | .user c, s => ((c.exec svc s.users).1, { s with users := (c.exec svc s.users).2 })

end Exec

/-- A part of the handlers that other routes have as well. -/
def shared {α : Type} (p : AuthProgram α) : RegistrationProgram α := p.hoist .auth id

def user {α : Type} (c : UserCommand α) : RegistrationProgram α := .perform (.user c)

section Programs

variable (svc : AuthService) (env : RegistrationEnv)

/-- `normalizeUsername`. -/
def normalizeUsername (raw : String) : String := svc.toLowerCase (EcmaText.trim raw)

/-- The document of a new account. -/
def newUser (body : RegisterRequest) (emailVerified : Bool) (passwordHash : String)
    (draws : RegistrationDraws) : UserDocument where
  id := draws.id
  email := some (normalizeEmail svc body.email)
  username := some (normalizeUsername svc body.username)
  passwordHash := passwordHash
  displayName := some (EcmaText.trim body.displayName)
  profilePicture := body.profilePicture.toOption
  status := body.status.toOption
  emailVerified := emailVerified
  refreshTokenVersion := some 0
  lastSeenAt := none
  createdAt := draws.now
  updatedAt := draws.now

/-- `insertOne` and the errors the handlers answer to duplicate keys. -/
def insertUser (doc : UserDocument) : RegistrationProgram UserDocument := do
  match ← user (.insertUser doc) with
  | none => pure doc
  | some .username => .fail ⟨"USERNAME_TAKEN", 409, "This username is already taken"⟩
  | some .email => .fail ⟨"EMAIL_ALREADY_REGISTERED", 409, "An account with this email already exists"⟩
  | some .id => .fail internalServerError

def createUser (body : RegisterRequest) (emailVerified : Bool) (draws : RegistrationDraws) :
    RegistrationProgram UserDocument := do
  let passwordHash ← user (.hashPassword body.password)
  insertUser (newUser svc body emailVerified passwordHash draws)

/-- The document of a new guest. -/
def newGuest (body : GuestRequest) (guestDataExpiresAt : Option Nat) (passwordHash : String)
    (draws : RegistrationDraws) : UserDocument :=
  let displayTrim := EcmaText.trim (body.displayName.getD "")
  { id := draws.id
    username := some (normalizeUsername svc body.username)
    passwordHash := passwordHash
    displayName := if displayTrim ≠ "" then some displayTrim else none
    profilePicture := none
    status := none
    emailVerified := true
    isGuest := some true
    guestDataExpiresAt := guestDataExpiresAt
    refreshTokenVersion := some 0
    lastSeenAt := none
    createdAt := draws.now
    updatedAt := draws.now }

def createGuestUser (body : GuestRequest) (guestDataExpiresAt : Option Nat) (draws : RegistrationDraws) :
    RegistrationProgram UserDocument := do
  let passwordHash ← user (.hashPassword draws.guestPassword)
  insertUser (newGuest svc body guestDataExpiresAt passwordHash draws)

/-- `issueAuthTokens` for the new user. -/
def issueAuthTokens (doc : UserDocument) (guest : Bool) (sourceDeviceId : Option String) (now : Nat) :
    RegistrationProgram AuthTokens := do
  let options : SignAccessTokenOptions :=
    { expiresInSeconds := if guest then some svc.env.GUEST_ACCESS_TOKEN_TTL_SECONDS else none
      guest := guest
      sourceDeviceId := sourceDeviceId }
  let signed ← user (.signAccessToken doc.id doc.emailVerified options now)
  let access ← .done signed
  let refreshToken ← shared (.perform (.createRefreshToken ⟨doc.id, doc.refreshTokenVersion.getD 0⟩
    (if guest then svc.GUEST_REFRESH_TOKEN_TTL_SECONDS else svc.REFRESH_TOKEN_TTL_SECONDS)))
  pure
    { accessToken := access.1
      refreshToken := refreshToken
      expiresIn := access.2
      expiresAt := if guest then some (now + access.2) else none }

/-- The token of the verification mail. -/
def signVerification (doc : UserDocument) (now : Nat) : RegistrationProgram Unit := do
  let regEmail ← .orFail (doc.email.filter fun email => email ≠ "")
    ⟨"INTERNAL_ERROR", 500, "Registered user missing email after signup"⟩
  let signed ← user (.signEmailVerificationToken doc.id regEmail now)
  let _ ← .done signed
  pure ()

/-- The tokens of a signed-in user, bound to the device that the body names. -/
def bindAndIssue (doc : UserDocument) (guest : Bool) (sourceDeviceId : Nullable String) (now : Nat) :
    RegistrationProgram AuthTokens := do
  let device ← shared (resolveSourceDeviceIdForAccessToken doc.id sourceDeviceId)
  issueAuthTokens svc doc guest device now

/-- `POST /auth/register`: tokens, unless the address has to be verified first. -/
def postRegister (body : RegisterRequest) (ip : String) (draws : RegistrationDraws) :
    RegistrationProgram (Option AuthTokens) := do
  shared (requireJwtForAuth svc)
  let limited ← shared (rateLimitExceeded ("ratelimit:register:ip:" ++ ip)
    env.REGISTER_RATE_LIMIT_WINDOW_SEC env.REGISTER_RATE_LIMIT_MAX)
  .require (!limited) ⟨"RATE_LIMIT_EXCEEDED", 429, "Too many registration attempts; try again later"⟩
  let runtimeCfg ← shared (.perform .getEffectiveRuntimeConfig)
  let doc ← createUser svc body (!runtimeCfg.emailVerificationRequired) draws
  let now := draws.now / 1000
  if runtimeCfg.emailVerificationRequired then signVerification doc now else pure ()
  if !doc.emailVerified then pure none
  else do
    let tokens ← bindAndIssue svc doc false body.sourceDeviceId now
    pure (some tokens)

/-- Attempts are counted for the address, then for the fingerprint. -/
def isGuestAuthRateLimited (ip : String) (fingerprintRaw : Option String) : AuthProgram Bool := do
  let limited ← rateLimitExceeded ("ratelimit:auth-guest:ip:" ++ ip) env.GUEST_AUTH_RATE_LIMIT_WINDOW_SEC
    env.GUEST_AUTH_RATE_LIMIT_MAX_PER_IP
  match limited, fingerprintRaw with
  | false, some raw =>
      rateLimitExceeded ("ratelimit:auth-guest:fp:" ++ env.fingerprintRedisKeySegment raw)
        env.GUEST_AUTH_RATE_LIMIT_WINDOW_SEC env.GUEST_AUTH_RATE_LIMIT_MAX_PER_FINGERPRINT
  | limited, _ => pure limited

def computeGuestDataExpiresAt (effective : EffectiveRuntimeConfig) (now : Nat) : Option Nat :=
  if effective.guestDataTtlEnabled then some (now + env.GUEST_DATA_MONGODB_TTL_SECONDS * 1000) else none

/-- `POST /auth/guest`. -/
def postGuest (body : GuestRequest) (ip : String) (fingerprintRaw : Option String)
    (draws : RegistrationDraws) : RegistrationProgram (AuthTokens × UserApiShape) := do
  shared (requireJwtForAuth svc)
  let limited ← shared (isGuestAuthRateLimited env ip fingerprintRaw)
  .require (!limited) ⟨"RATE_LIMIT_EXCEEDED", 429, "Too many guest session attempts; try again later"⟩
  let runtimeCfg ← shared (.perform .getEffectiveRuntimeConfig)
  let doc ← createGuestUser svc body (computeGuestDataExpiresAt env runtimeCfg draws.now) draws
  let tokens ← bindAndIssue svc doc true body.sourceDeviceId (draws.now / 1000)
  pure (tokens, toUserApiShape doc)

end Programs

end MessagingSystem.Source.Server.Registration

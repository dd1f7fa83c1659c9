import MessagingSystem.Source.Server.AuthStore

/-!
# Sign-in, refresh and sign-out

`issueTokens.ts`, `refreshTokenRedis.ts` and the handlers of `controllers/auth.ts`
that issue or revoke refresh tokens. `now` is the clock in seconds; the user a
verification answers, which nothing here reads, is left out.
-/
namespace MessagingSystem.Source.Server
open Foundation

/-- The tokens of an authentication response. -/
structure AuthTokens where
  accessToken : String
  refreshToken : String
  expiresIn : Nat
  expiresAt : Option Nat
  deriving DecidableEq

/-- What a handler answers: tokens, or an empty response. -/
abbrev AuthReply := Option AuthTokens

def invalidRefreshToken (message : String) : AppError := ⟨"INVALID_REFRESH_TOKEN", 401, message⟩

section Lookups

variable (svc : AuthService)

def requireJwtForAuth : AuthProgram Unit :=
  .require svc.env.trimmedSecret.isSome
    ⟨"AUTH_NOT_CONFIGURED", 503, "JWT_SECRET is not configured"⟩

/-- `email.trim().toLowerCase()`. -/
def normalizeEmail (email : String) : String := svc.toLowerCase (EcmaText.trim email)

def findAccountByEmail (email : String) : AuthProgram (Option AccountDocument) :=
  .perform (.findUserByEmail (normalizeEmail svc email))

def findAccountById (id : String) : AuthProgram (Option AccountDocument) :=
  if EcmaText.trim id = "" then pure none else .perform (.findUserById (EcmaText.trim id))

/-- The device an access token is bound to; one that is named must be registered. -/
def resolveSourceDeviceIdForAccessToken (userId : String) (raw : Nullable String) :
    AuthProgram (Option String) :=
  match raw with
  | .value s =>
      if EcmaText.trim s = "" then pure none
      else do
        let row ← .perform (.findUserDeviceRow (EcmaText.trim userId) (EcmaText.trim s))
        .require row.isSome ⟨"INVALID_REQUEST", 400,
          "sourceDeviceId is not a registered device for this user"⟩
        pure (some (EcmaText.trim s))
  | _ => pure none

/-- `fixedWindowIncrement` and the comparison with the limit. -/
def rateLimitExceeded (key : String) (windowSeconds max : Nat) : AuthProgram Bool := do
  let n ← .perform (.increment key)
  if n = 1 then do
    .perform (.expire key windowSeconds)
    pure (decide (max < n))
  else pure (decide (max < n))

/-- What a pure function that may throw makes of a program. -/
def orThrow {α : Type} : Except AppError α → AuthProgram α
  | .ok a => pure a
  | .error e => .fail e

end Lookups

section Tokens

variable (svc : AuthService)

def getRefreshPayload (raw : String) : AuthProgram (Option StoredRefreshPayload) :=
  .perform (.getRefreshPayload (svc.tokenHash raw))

def revokeRefreshToken (raw : String) : AuthProgram Unit :=
  .perform (.revokeRefreshToken (svc.tokenHash raw))

/-- An access token, and a refresh token that is tied to the user's version. -/
def issueAuthTokens (user : AccountDocument) (guest : Bool) (sourceDeviceId : Option String)
    (now : Nat) : AuthProgram AuthTokens := do
  let options : SignAccessTokenOptions :=
    { expiresInSeconds := if guest then some svc.env.GUEST_ACCESS_TOKEN_TTL_SECONDS else none
      guest := guest
      sourceDeviceId := sourceDeviceId }
  let access ← orThrow (signAccessToken svc.jose svc.env user.id user.emailVerified options now)
  let refreshToken ← .perform (.createRefreshToken ⟨user.id, user.version⟩
    (if guest then svc.GUEST_REFRESH_TOKEN_TTL_SECONDS else svc.REFRESH_TOKEN_TTL_SECONDS))
  pure
    { accessToken := access.1
      refreshToken := refreshToken
      expiresIn := access.2
      expiresAt := if guest then some (now + access.2) else none }

end Tokens

section Handlers

variable (svc : AuthService)

def postLogin (email password : String) (sourceDeviceId : Nullable String) (now : Nat) :
    AuthProgram AuthReply := do
  requireJwtForAuth svc
  let found ← findAccountByEmail svc email
  let user ← .orFail (found.filter fun user => svc.verifyPassword user.passwordHash password)
    ⟨"INVALID_CREDENTIALS", 401, "Invalid email or password"⟩
  .require user.emailVerified
    ⟨"EMAIL_NOT_VERIFIED", 403, "Verify your email before signing in"⟩
  let device ← resolveSourceDeviceIdForAccessToken user.id sourceDeviceId
  let tokens ← issueAuthTokens svc user false device now
  pure (some tokens)

/-- The rejection of a refresh token that is revoked on the way. -/
def revokeAndReject (rawRefresh : String) (e : AppError) : AuthProgram AuthReply := do
  revokeRefreshToken svc rawRefresh
  .fail e

/-- The rotation, once the token's version is the user's. -/
def rotateRefreshToken (rawRefresh : String) (user : AccountDocument)
    (sourceDeviceId : Nullable String) (now : Nat) : AuthProgram AuthReply := do
  let cfg ← .perform .getEffectiveRuntimeConfig
  .require (!(cfg.emailVerificationRequired && !user.emailVerified))
    ⟨"EMAIL_NOT_VERIFIED", 403, "Verify your email before refreshing"⟩
  let device ← resolveSourceDeviceIdForAccessToken user.id sourceDeviceId
  let tokens ← issueAuthTokens svc user (user.isGuest = some true) device now
  revokeRefreshToken svc rawRefresh
  pure (some tokens)

def postRefresh (rawRefresh : String) (sourceDeviceId : Nullable String) (now : Nat) :
    AuthProgram AuthReply := do
  requireJwtForAuth svc
  match ← getRefreshPayload svc rawRefresh with
  | none => .fail (invalidRefreshToken "Invalid or expired refresh token")
  | some stored => do
      match ← findAccountById stored.userId with
      | none => revokeAndReject svc rawRefresh (invalidRefreshToken "Invalid or expired refresh token")
      | some user =>
          if user.version ≠ stored.v then
            revokeAndReject svc rawRefresh (invalidRefreshToken "Refresh token has been revoked")
          else rotateRefreshToken svc rawRefresh user sourceDeviceId now

def postLogout (rawRefresh : String) : AuthProgram AuthReply := do
  requireJwtForAuth svc
  revokeRefreshToken svc rawRefresh
  pure none

def guestActionForbidden (message : String) : AppError := ⟨"GUEST_ACTION_FORBIDDEN", 403, message⟩

def postResetPassword (token password : String) (now : Nat) : AuthProgram AuthReply := do
  requireJwtForAuth svc
  let claims ← orThrow (verifyPasswordResetToken svc.jose svc.env token now)
  let found ← findAccountById claims.userId
  let user ← .orFail (found.filter fun user => user.email = some claims.email)
    ⟨"INVALID_PASSWORD_RESET_TOKEN", 400, "Password reset token is not valid for this account"⟩
  .require (user.isGuest ≠ some true)
    (guestActionForbidden "Password reset does not apply to guest accounts")
  let ok ← .perform (.setUserPasswordAndBumpVersion user.id (svc.hashPassword password))
  .require ok ⟨"INTERNAL_ERROR", 500, "Could not update password"⟩
  pure none

/-- Tokens for an account whose address is verified: at once, or after the
address has been marked and the account read again. -/
def verifiedTokens (user : AccountDocument) (now : Nat) : AuthProgram AuthReply := do
  if user.emailVerified then do
    let tokens ← issueAuthTokens svc user false none now
    pure (some tokens)
  else do
    let _ ← .perform (.setUserEmailVerified user.id true)
    let found ← findAccountById user.id
    let updated ← .orFail found ⟨"INTERNAL_ERROR", 500, "User missing after verify"⟩
    let tokens ← issueAuthTokens svc updated false none now
    pure (some tokens)

def postVerifyEmail (token ip : String) (now : Nat) : AuthProgram AuthReply := do
  requireJwtForAuth svc
  let cfg ← .perform .getEffectiveRuntimeConfig
  .require cfg.emailVerificationRequired ⟨"EMAIL_VERIFICATION_DISABLED", 400,
    "Email verification is not enabled. Accounts are verified on registration."⟩
  let limited ← rateLimitExceeded ("ratelimit:verify-email:ip:" ++ ip)
    svc.VERIFY_EMAIL_RATE_LIMIT_WINDOW_SEC svc.VERIFY_EMAIL_RATE_LIMIT_MAX
  .require (!limited) ⟨"RATE_LIMIT_EXCEEDED", 429, "Too many attempts; try again later"⟩
  let claims ← orThrow (verifyEmailVerificationToken svc.jose svc.env token now)
  let found ← findAccountById claims.userId
  let user ← .orFail found ⟨"INVALID_VERIFICATION_TOKEN", 400, "User not found for this token"⟩
  .require (user.isGuest ≠ some true)
    (guestActionForbidden "Email verification does not apply to guest accounts")
  .require (user.email = some claims.email)
    ⟨"INVALID_VERIFICATION_TOKEN", 400, "Token does not match user email"⟩
  verifiedTokens svc user now

end Handlers

end MessagingSystem.Source.Server

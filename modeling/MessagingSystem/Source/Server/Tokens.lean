import MessagingSystem.Source.Server.Database

/-!
# Signed tokens

`accessToken.ts`, `resolveBearer.ts`, `emailVerificationJwt.ts` and
`passwordResetJwt.ts`. The `jose` package is a parameter: `SignJWT(...).sign`
with its protected header and `jwtVerify` with the options the service passes.
Times are whole seconds.
-/
namespace MessagingSystem.Source.Server
open Foundation

/-- `new TextEncoder().encode(s)`. -/
def encodeText (s : String) : ByteArray := s.toUTF8

theorem encodeText_inj {a b : String} : (encodeText a).data = (encodeText b).data ↔ a = b :=
  ByteArray.ext_iff.symm.trans String.toByteArray_inj

structure JWTPayload where
  sub : Option String := none
  iss : Option String := none
  iat : Option Nat := none
  exp : Option Nat := none
  purpose : Option String := none
  email : Option String := none
  email_verified : Option Bool := none
  guest : Option Bool := none
  sourceDeviceId : Option String := none
  deriving DecidableEq

structure JWTVerifyOptions where
  issuer : Option String := none
  algorithms : List String

structure Jose where
  sign : (alg : String) → (key : ByteArray) → JWTPayload → String
  jwtVerify : String → (key : ByteArray) → JWTVerifyOptions → (now : Nat) → Option JWTPayload

/-- A signed token is accepted exactly when the key bytes, the algorithm, the
issuer if one is required, and the expiry match. It is compact: without white
space at its ends, and not empty. -/
structure Jose.Ideal (jose : Jose) : Prop where
  verify : ∀ (alg : String) (key : ByteArray) (payload : JWTPayload) (key' : ByteArray)
    (options : JWTVerifyOptions) (now : Nat),
    jose.jwtVerify (jose.sign alg key payload) key' options now =
      if key'.data = key.data ∧ alg ∈ options.algorithms ∧
          (∀ issuer, options.issuer = some issuer → payload.iss = some issuer) ∧
          (∀ exp, payload.exp = some exp → now < exp) then
        some payload
      else none
  trimmed : ∀ alg key payload, EcmaText.Trimmed (jose.sign alg key payload)
  nonempty : ∀ alg key payload, jose.sign alg key payload ≠ ""

/-- The settings the tokens depend on; the lifetimes are positive. -/
structure TokenEnv where
  JWT_SECRET : Option String
  ACCESS_TOKEN_TTL_SECONDS : Nat
  GUEST_ACCESS_TOKEN_TTL_SECONDS : Nat
  EMAIL_VERIFICATION_TOKEN_TTL_HOURS : Nat
  PASSWORD_RESET_TOKEN_TTL_HOURS : Nat
  accessPositive : 0 < ACCESS_TOKEN_TTL_SECONDS
  guestPositive : 0 < GUEST_ACCESS_TOKEN_TTL_SECONDS
  verificationPositive : 0 < EMAIL_VERIFICATION_TOKEN_TTL_HOURS
  resetPositive : 0 < PASSWORD_RESET_TOKEN_TTL_HOURS

/-- `env.JWT_SECRET?.trim()`, when it is not empty. -/
def TokenEnv.trimmedSecret (env : TokenEnv) : Option String :=
  (env.JWT_SECRET.map EcmaText.trim).filter fun secret => secret ≠ ""

def ISSUER : String := "messaging-service"

/-- `secretKey`, whose error text differs between the three modules. -/
def secretKey (env : TokenEnv) (notConfigured : String) : Except AppError ByteArray :=
  match env.trimmedSecret with
  | some secret => .ok (encodeText secret)
  | none => .error ⟨"AUTH_NOT_CONFIGURED", 503, notConfigured⟩

structure SignAccessTokenOptions where
  expiresInSeconds : Option Nat := none
  guest : Bool := false
  sourceDeviceId : Option String := none

section AccessToken

variable (jose : Jose) (env : TokenEnv)

/-- The token and its lifetime in seconds. -/
def signAccessToken (userId : String) (emailVerified : Bool) (options : SignAccessTokenOptions)
    (now : Nat) : Except AppError (String × Nat) := do
  let key ← secretKey env "JWT_SECRET is not configured"
  let expiresIn := options.expiresInSeconds.getD env.ACCESS_TOKEN_TTL_SECONDS
  let sdi := (options.sourceDeviceId.map EcmaText.trim).filter fun sdi => sdi ≠ ""
  let payload : JWTPayload :=
    { email_verified := some emailVerified
      guest := if options.guest then some true else none
      sourceDeviceId := sdi
      sub := some userId
      iss := some ISSUER
      iat := some now
      exp := some (now + expiresIn) }
  pure (jose.sign "HS256" key payload, expiresIn)

structure VerifiedAccessToken where
  sub : String
  guest : Bool
  sourceDeviceId : Option String
  deriving DecidableEq

def verifyAccessTokenJwt (token : String) (now : Nat) : Option VerifiedAccessToken :=
  match env.JWT_SECRET with
  | none => none
  | some secret =>
      if EcmaText.trim secret = "" then none
      else
        let trimmed := EcmaText.trim token
        if trimmed = "" then none
        else
          -- the key is the secret as it is configured
          match jose.jwtVerify trimmed (encodeText secret) { algorithms := ["HS256"] } now with
          | none => none
          | some payload =>
              match payload.sub with
              | none => none
              | some sub =>
                  if EcmaText.trim sub = "" then none
                  else
                    some
                      { sub := EcmaText.trim sub
                        guest := payload.guest = some true
                        sourceDeviceId :=
                          (payload.sourceDeviceId.map EcmaText.trim).filter fun sdi => sdi ≠ "" }

end AccessToken

/-- The two kinds of tokens that are sent by mail. -/
inductive MailToken where
  | emailVerification | passwordReset
  deriving DecidableEq

namespace MailToken

/-- `PURPOSE`. -/
def purpose : MailToken → String
  | .emailVerification => "email_verification"
  | .passwordReset => "password_reset"

def ttlHours (env : TokenEnv) : MailToken → Nat
  | .emailVerification => env.EMAIL_VERIFICATION_TOKEN_TTL_HOURS
  | .passwordReset => env.PASSWORD_RESET_TOKEN_TTL_HOURS

def notConfigured : MailToken → String
  | .emailVerification =>
      "JWT_SECRET is not configured; cannot issue or verify email tokens"
  | .passwordReset =>
      "JWT_SECRET is not configured; cannot issue or verify password reset tokens"

def invalid : MailToken → AppError
  | .emailVerification =>
      ⟨"INVALID_VERIFICATION_TOKEN", 400, "Invalid or expired verification token"⟩
  | .passwordReset =>
      ⟨"INVALID_PASSWORD_RESET_TOKEN", 400, "Invalid or expired password reset token"⟩

end MailToken

structure MailClaims where
  userId : String
  email : String
  deriving DecidableEq

section MailTokens

variable (jose : Jose) (env : TokenEnv)

def signMailToken (kind : MailToken) (userId email : String) (now : Nat) : Except AppError String := do
  let key ← secretKey env kind.notConfigured
  pure (jose.sign "HS256" key
    { purpose := some kind.purpose
      email := some email
      sub := some userId
      iss := some ISSUER
      iat := some now
      exp := some (now + 3600 * kind.ttlHours env) })

def verifyMailToken (kind : MailToken) (token : String) (now : Nat) : Except AppError MailClaims := do
  let key ← secretKey env kind.notConfigured
  match jose.jwtVerify token key { issuer := some ISSUER, algorithms := ["HS256"] } now with
  | none => .error kind.invalid
  | some payload =>
      if payload.purpose ≠ some kind.purpose then .error kind.invalid
      else
        let userId := payload.sub.getD ""
        let email := payload.email.getD ""
        if userId = "" ∨ email = "" then .error kind.invalid else .ok ⟨userId, email⟩

def signEmailVerificationToken (userId email : String) (now : Nat) : Except AppError String :=
  signMailToken jose env .emailVerification userId email now

def verifyEmailVerificationToken (token : String) (now : Nat) : Except AppError MailClaims :=
  verifyMailToken jose env .emailVerification token now

def signPasswordResetToken (userId email : String) (now : Nat) : Except AppError String :=
  signMailToken jose env .passwordReset userId email now

def verifyPasswordResetToken (token : String) (now : Nat) : Except AppError MailClaims :=
  verifyMailToken jose env .passwordReset token now

end MailTokens

section Acceptance

variable {jose : Jose} {env : TokenEnv} {secret : String}

theorem secretKey_of_configured (configured : env.JWT_SECRET = some secret)
    (nonblank : EcmaText.trim secret ≠ "") (notConfigured : String) :
    secretKey env notConfigured = .ok (encodeText (EcmaText.trim secret)) := by
  simp [secretKey, TokenEnv.trimmedSecret, configured, Option.filter, nonblank]

/-- The payload of an access token. -/
def accessPayload (env : TokenEnv) (userId : String) (emailVerified : Bool)
    (options : SignAccessTokenOptions) (now : Nat) : JWTPayload :=
  { email_verified := some emailVerified
    guest := if options.guest then some true else none
    sourceDeviceId := (options.sourceDeviceId.map EcmaText.trim).filter fun sdi => sdi ≠ ""
    sub := some userId
    iss := some ISSUER
    iat := some now
    exp := some (now + options.expiresInSeconds.getD env.ACCESS_TOKEN_TTL_SECONDS) }

/-- The payload of a mail token. -/
def mailPayload (env : TokenEnv) (kind : MailToken) (userId email : String) (now : Nat) : JWTPayload :=
  { purpose := some kind.purpose
    email := some email
    sub := some userId
    iss := some ISSUER
    iat := some now
    exp := some (now + 3600 * kind.ttlHours env) }

theorem signAccessToken_eq (configured : env.JWT_SECRET = some secret)
    (nonblank : EcmaText.trim secret ≠ "") (userId : String) (emailVerified : Bool)
    (options : SignAccessTokenOptions) (now : Nat) :
    signAccessToken jose env userId emailVerified options now =
      .ok (jose.sign "HS256" (encodeText (EcmaText.trim secret))
        (accessPayload env userId emailVerified options now),
        options.expiresInSeconds.getD env.ACCESS_TOKEN_TTL_SECONDS) := by
  unfold signAccessToken
  rw [secretKey_of_configured configured nonblank]
  rfl

theorem signMailToken_eq (configured : env.JWT_SECRET = some secret)
    (nonblank : EcmaText.trim secret ≠ "") (kind : MailToken) (userId email : String) (now : Nat) :
    signMailToken jose env kind userId email now =
      .ok (jose.sign "HS256" (encodeText (EcmaText.trim secret))
        (mailPayload env kind userId email now)) := by
  unfold signMailToken
  rw [secretKey_of_configured configured nonblank]
  rfl

/-- What the access verifier makes of a token of this service: the secret must be
configured without white space around it, and the token unexpired, of a user id
that is not blank. Its purpose and issuer do not matter. -/
theorem verifyAccessTokenJwt_signed (ideal : jose.Ideal) (configured : env.JWT_SECRET = some secret)
    (nonblank : EcmaText.trim secret ≠ "") (payload : JWTPayload) {userId : String} {exp : Nat}
    (subject : payload.sub = some userId) (expiry : payload.exp = some exp) (now : Nat) :
    verifyAccessTokenJwt jose env
        (jose.sign "HS256" (encodeText (EcmaText.trim secret)) payload) now =
      if EcmaText.Trimmed secret ∧ EcmaText.trim userId ≠ "" ∧ now < exp then
        some
          { sub := EcmaText.trim userId
            guest := payload.guest = some true
            sourceDeviceId := (payload.sourceDeviceId.map EcmaText.trim).filter fun sdi => sdi ≠ "" }
      else none := by
  have trimmed := ideal.trimmed "HS256" (encodeText (EcmaText.trim secret)) payload
  have present := ideal.nonempty "HS256" (encodeText (EcmaText.trim secret)) payload
  unfold verifyAccessTokenJwt
  dsimp only
  rw [configured]
  dsimp only
  rw [if_neg nonblank, show EcmaText.trim (jose.sign _ _ payload) = _ from trimmed, if_neg present,
    ideal.verify]
  by_cases same : (encodeText secret).data = (encodeText (EcmaText.trim secret)).data
  · have plain : EcmaText.Trimmed secret := (encodeText_inj.mp same).symm
    by_cases fresh : now < exp
    · by_cases blank : EcmaText.trim userId = ""
      · simp [same, expiry, fresh, subject, blank]
      · simp [same, expiry, fresh, subject, blank, plain]
    · simp [expiry, fresh]
  · have untrimmed : ¬ EcmaText.Trimmed secret := fun plain => same (encodeText_inj.mpr plain.symm)
    simp [same, untrimmed]

/-- What a mail verifier makes of a token of this service. -/
theorem verifyMailToken_signed (ideal : jose.Ideal) (configured : env.JWT_SECRET = some secret)
    (nonblank : EcmaText.trim secret ≠ "") (kind : MailToken) (payload : JWTPayload)
    {userId : String} {exp : Nat} (issuer : payload.iss = some ISSUER)
    (subject : payload.sub = some userId) (expiry : payload.exp = some exp) (now : Nat) :
    verifyMailToken jose env kind (jose.sign "HS256" (encodeText (EcmaText.trim secret)) payload) now =
      if now < exp ∧ payload.purpose = some kind.purpose ∧ userId ≠ "" ∧
          payload.email.getD "" ≠ "" then
        .ok ⟨userId, payload.email.getD ""⟩
      else .error kind.invalid := by
  unfold verifyMailToken
  rw [secretKey_of_configured configured nonblank]
  simp only [bind, Except.bind]
  rw [ideal.verify]
  by_cases fresh : now < exp
  · by_cases purpose : payload.purpose = some kind.purpose
    · by_cases blank : userId = "" ∨ payload.email.getD "" = ""
      · rcases blank with rfl | blank
        · simp [expiry, issuer, fresh, purpose, subject]
        · simp [expiry, issuer, fresh, purpose, subject, blank]
      · rw [not_or] at blank
        simp [expiry, issuer, fresh, purpose, subject, blank.1, blank.2]
    · simp [expiry, issuer, fresh, purpose]
  · simp [expiry, fresh]

end Acceptance

end MessagingSystem.Source.Server

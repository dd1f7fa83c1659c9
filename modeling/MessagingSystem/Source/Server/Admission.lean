import MessagingSystem.Source.Server.Auth
import MessagingSystem.Source.Server.Presence

/-!
# Who is let in

`requireAuth.ts` with `resolveBearer.ts` for a request, and `socketAuth.ts` for the
handshake of a socket. A JSON object is the list of its members, and a header value is
the text that Node hands on. `production` is `NODE_ENV === 'production'`.
-/
namespace MessagingSystem.Source.Server
open Foundation

/-- The settings and packages of the process, and the clock in seconds. -/
structure Doorway where
  svc : AuthService
  production : Bool
  now : Nat

/-- What stands behind `Bearer ` in a header value. -/
def bearerToken (value : String) : Option String :=
  if EcmaText.startsWith value "Bearer " then some (EcmaText.trim (EcmaText.dropStart value "Bearer "))
  else none

/-- A text that is not blank, trimmed. -/
def nonBlank (text : String) : Option String :=
  if EcmaText.trim text = "" then none else some (EcmaText.trim text)

section Requests

structure RequestHeaders where
  authorization : Option String := none
  xUserId : Option String := none
  xSourceDeviceId : Option String := none

inductive ResolveBearerAuthResult where
  | jwt (verified : VerifiedAccessToken)
  | dev (sub : String) (sourceDeviceId : Option String)

namespace ResolveBearerAuthResult

def sub : ResolveBearerAuthResult → String
  | jwt verified => verified.sub
  | dev sub _ => sub

def sourceDeviceId : ResolveBearerAuthResult → Option String
  | jwt verified => verified.sourceDeviceId
  | dev _ sourceDeviceId => sourceDeviceId

/-- A signed token names the kind of its account. -/
def fits : ResolveBearerAuthResult → AccountDocument → Bool
  | jwt verified, user => verified.guest = decide (user.isGuest = some true)
  | dev .., _ => true

end ResolveBearerAuthResult

variable (door : Doorway)

/-- The user id that development takes at its word. -/
def resolveDevHeaders (headers : RequestHeaders) : Option ResolveBearerAuthResult :=
  if door.production then none
  else (headers.xUserId.bind nonBlank).map fun sub => .dev sub (headers.xSourceDeviceId.bind nonBlank)

def resolveBearerAuth (headers : RequestHeaders) : Option ResolveBearerAuthResult :=
  match headers.authorization.bind bearerToken with
  | none => resolveDevHeaders door headers
  | some token =>
      if door.svc.env.JWT_SECRET.getD "" = "" then resolveDevHeaders door headers
      else if token = "" then none
      else (verifyAccessTokenJwt door.svc.jose door.svc.env token door.now).map .jwt

structure AuthenticatedRequestContext where
  user : AccountDocument
  sourceDeviceId : Option String

def unauthorized (message : String) : AppError := ⟨"UNAUTHORIZED", 401, message⟩

def emailNotVerified : AppError := ⟨"EMAIL_NOT_VERIFIED", 403, "Verify your email before using this resource"⟩

def requireAuthenticatedUser (headers : RequestHeaders) : AuthProgram AuthenticatedRequestContext := do
  let auth ← .orFail (resolveBearerAuth door headers) (unauthorized
    (if door.svc.env.trimmedSecret.isSome then "Missing or invalid bearer token"
      else "Set JWT_SECRET or use X-User-Id in non-production"))
  let found ← findAccountById auth.sub
  let user ← .orFail found (unauthorized "User not found")
  .require (auth.fits user) (unauthorized "Access token does not match this user")
  let cfg ← .perform .getEffectiveRuntimeConfig
  .require (!(cfg.emailVerificationRequired && !user.emailVerified)) emailNotVerified
  pure ⟨user, auth.sourceDeviceId.filter fun sourceDeviceId => sourceDeviceId ≠ ""⟩

end Requests

section Sockets

/-- `auth` and `headers.authorization` of a handshake. -/
structure SocketHandshake where
  auth : Option Json := none
  authorization : Option String := none

inductive SocketHandshakeAuth where
  | jwt (sub : String) (guest : Bool)
  | dev (sub : String)

namespace SocketHandshakeAuth

def sub : SocketHandshakeAuth → String
  | jwt sub _ => sub
  | dev sub => sub

def fits : SocketHandshakeAuth → AccountDocument → Bool
  | jwt _ guest, user => guest = decide (user.isGuest = some true)
  | dev _, _ => true

end SocketHandshakeAuth

def readUserIdFromHandshakeAuth (auth : Option Json) : Option String :=
  match (Json.asObject auth).bind fun members => Json.member members "userId" with
  | some (.string userId) => nonBlank userId
  | _ => none

/-- The token of `handshake.auth`: the first of three members that is a string. -/
def authToken (auth : Option Json) : Option String :=
  match Json.asObject auth with
  | none => none
  | some members =>
      match Json.member members "token", Json.member members "accessToken",
          Json.member members "authorization" with
      | some (.string token), _, _ => some (EcmaText.trim token)
      | _, some (.string accessToken), _ => some (EcmaText.trim accessToken)
      | _, _, some (.string authorization) => bearerToken (EcmaText.trim authorization)
      | _, _, _ => none

/-- An empty token gives way to that of the header. -/
def handshakeToken (handshake : SocketHandshake) : Option String :=
  match authToken handshake.auth with
  | none => handshake.authorization.bind bearerToken
  | some token => if token = "" then handshake.authorization.bind bearerToken else some token

variable (door : Doorway)

def resolveDevHandshake (handshake : SocketHandshake) : Option SocketHandshakeAuth :=
  if door.production then none else (readUserIdFromHandshakeAuth handshake.auth).map .dev

def resolveHandshakeAccessAuth (handshake : SocketHandshake) : Option SocketHandshakeAuth :=
  match handshakeToken handshake with
  | none => resolveDevHandshake door handshake
  | some token =>
      if token = "" ∨ door.svc.env.trimmedSecret = none then resolveDevHandshake door handshake
      else
        (verifyAccessTokenJwt door.svc.jose door.svc.env token door.now).map fun verified =>
          .jwt verified.sub verified.guest

/-- `SocketAuthResult`, with the document of the user. -/
inductive ResolvedSocketAuth where
  | ok (user : AccountDocument)
  | unauthenticated
  | emailNotVerified
  deriving DecidableEq

def resolveSocketAuth (handshake : SocketHandshake) : AuthProgram ResolvedSocketAuth := do
  match resolveHandshakeAccessAuth door handshake with
  | none => pure .unauthenticated
  | some handshakeAuth => do
      match ← findAccountById handshakeAuth.sub with
      | none => pure .unauthenticated
      | some user =>
          if handshakeAuth.fits user then do
            let cfg ← .perform .getEffectiveRuntimeConfig
            if cfg.emailVerificationRequired && !user.emailVerified then pure .emailNotVerified
            else pure (.ok user)
          else pure .unauthenticated

end Sockets

end MessagingSystem.Source.Server

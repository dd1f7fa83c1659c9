import MessagingSystem.Source.Server.DeviceDirectory
import MessagingSystem.Source.Server.Tokens

/-!
# The stores behind a session

The documents of `users` with the fields authentication reads, the refresh
tokens and counters in Redis, and one command for each MongoDB or Redis call.
The random draw of a refresh token and its `SET` are one command; `drawn` counts
the draws.
-/
namespace MessagingSystem.Source.Server
open Foundation

structure AccountDocument where
  id : String
  email : Option String
  passwordHash : String
  emailVerified : Bool
  isGuest : Option Bool
  refreshTokenVersion : Option Nat
  deriving DecidableEq

/-- `user.refreshTokenVersion ?? 0`. -/
def AccountDocument.version (user : AccountDocument) : Nat := user.refreshTokenVersion.getD 0

structure StoredRefreshPayload where
  userId : String
  v : Nat
  deriving DecidableEq

structure AuthStore where
  runtimeConfig : EffectiveRuntimeConfig := {}
  users : List AccountDocument := []
  userDevicePublicKeys : List UserPublicKeyDocument := []
  /-- The `rt:` keys of Redis, by token hash. -/
  refreshTokens : Record StoredRefreshPayload := ∅
  counters : Record Nat := ∅
  drawn : Nat := 0

/-- What the handlers take from other packages: tokens, hashes, random draws and
the case mapping of the language. -/
structure AuthService where
  jose : Jose
  env : TokenEnv
  tokenHash : String → String
  randomToken : Nat → String
  verifyPassword : (passwordHash plain : String) → Bool
  hashPassword : String → String
  toLowerCase : String → String
  REFRESH_TOKEN_TTL_SECONDS : Nat
  GUEST_REFRESH_TOKEN_TTL_SECONDS : Nat
  VERIFY_EMAIL_RATE_LIMIT_WINDOW_SEC : Nat
  VERIFY_EMAIL_RATE_LIMIT_MAX : Nat

/-- One MongoDB or Redis call. -/
inductive AuthCommand : Type → Type where
  | getEffectiveRuntimeConfig : AuthCommand EffectiveRuntimeConfig
  | findUserByEmail (email : String) : AuthCommand (Option AccountDocument)
  | findUserById (id : String) : AuthCommand (Option AccountDocument)
  | setUserEmailVerified (userId : String) (verified : Bool) : AuthCommand Bool
  | setUserPasswordAndBumpVersion (userId passwordHash : String) : AuthCommand Bool
  | removeUser (userId : String) : AuthCommand Unit
  | findUserDeviceRow (userId deviceId : String) : AuthCommand (Option UserPublicKeyDocument)
  | increment (key : String) : AuthCommand Nat
  | expire (key : String) (seconds : Nat) : AuthCommand Unit
  | createRefreshToken (payload : StoredRefreshPayload) (ttl : Nat) : AuthCommand String
  | getRefreshPayload (hash : String) : AuthCommand (Option StoredRefreshPayload)
  | revokeRefreshToken (hash : String) : AuthCommand Unit

namespace AuthStore

def findUser (s : AuthStore) (id : String) : Option AccountDocument := s.users.find? fun u => u.id = id

def updateUser (s : AuthStore) (id : String) (change : AccountDocument → AccountDocument) :
    Bool × AuthStore :=
  (s.users.any fun u => u.id = id,
    { s with users := Collection.updateFirst (fun u => u.id = id) change s.users })

end AuthStore

/-- `$set: { passwordHash }, $inc: { refreshTokenVersion: 1 }`. -/
def AccountDocument.bump (passwordHash : String) (user : AccountDocument) : AccountDocument :=
  { user with passwordHash := passwordHash, refreshTokenVersion := some (user.version + 1) }

def AccountDocument.setVerified (verified : Bool) (user : AccountDocument) : AccountDocument :=
  { user with emailVerified := verified }

/-- The atomic answer to a command. Redis expiry is a command of its own. -/
def AuthCommand.exec (svc : AuthService) : {β : Type} → AuthCommand β → AuthStore → β × AuthStore
  | _, .getEffectiveRuntimeConfig, s => (s.runtimeConfig, s)
  | _, .findUserByEmail email, s => (s.users.find? fun u => u.email = some email, s)
  | _, .findUserById id, s => (s.findUser id, s)
  | _, .setUserEmailVerified id verified, s => s.updateUser id (AccountDocument.setVerified verified)
  | _, .setUserPasswordAndBumpVersion id passwordHash, s =>
      s.updateUser id (AccountDocument.bump passwordHash)
  | _, .removeUser id, s => ((), { s with users := s.users.filter fun u => u.id ≠ id })
  | _, .findUserDeviceRow userId deviceId, s =>
      (s.userDevicePublicKeys.find? (Database.isDevice userId deviceId), s)
  | _, .increment key, s =>
      let count := (s.counters.get key).getD 0 + 1
      (count, { s with counters := s.counters.set key count })
  | _, .expire _ _, s => ((), s)
  | _, .createRefreshToken payload _, s =>
      let raw := svc.randomToken s.drawn
      (raw, { s with
        refreshTokens := s.refreshTokens.set (svc.tokenHash raw) payload
        drawn := s.drawn + 1 })
  | _, .getRefreshPayload hash, s => (s.refreshTokens.get hash, s)
  | _, .revokeRefreshToken hash, s =>
      ((), { s with refreshTokens := s.refreshTokens.delete hash })

abbrev AuthProgram (α : Type) := Program AuthCommand AppError α

end MessagingSystem.Source.Server

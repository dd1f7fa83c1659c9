import MessagingSystem.Source.Server.DeviceDirectory

/-!
# Presence

`lastSeen.ts`, `flushLastSeenToMongo.ts`, `resolveLastSeen.ts` and the presence
part of the `connection` handler in `socket.ts`, one command for each Redis or
MongoDB call. Times are Unix milliseconds; a stored time is read back as it was
written, and the ISO form of an answer is left out.
-/
namespace MessagingSystem.Source.Server
open Foundation

/-- The `presence:lastSeen:` keys of Redis, and `users.lastSeenAt` by user id. -/
structure PresenceStore where
  lastSeen : Record Nat := ∅
  lastSeenAt : Record (Option Nat) := ∅

inductive PresenceCommand : Type → Type where
  | setLastSeen (userId : UserId) (ms : Nat) : PresenceCommand Unit
  | getLastSeen (userId : UserId) : PresenceCommand (Option Nat)
  | deleteLastSeenRedis (userId : UserId) : PresenceCommand Unit
  /-- `updateOne`, answered by whether a user matched. -/
  | setLastSeenAt (userId : UserId) (at' : Nat) : PresenceCommand Bool
  | findLastSeenAt (userId : UserId) : PresenceCommand (Option Nat)

def PresenceCommand.exec : {β : Type} → PresenceCommand β → PresenceStore → β × PresenceStore
  | _, .setLastSeen user ms, s => ((), { s with lastSeen := s.lastSeen.set user.val ms })
  | _, .getLastSeen user, s => (s.lastSeen.get user.val, s)
  | _, .deleteLastSeenRedis user, s => ((), { s with lastSeen := s.lastSeen.delete user.val })
  | _, .setLastSeenAt user at', s =>
      match s.lastSeenAt.get user.val with
      | some _ => (true, { s with lastSeenAt := s.lastSeenAt.set user.val (some at') })
      | none => (false, s)
  | _, .findLastSeenAt user, s => ((s.lastSeenAt.get user.val).getD none, s)

abbrev PresenceProgram (α : Type) := Program PresenceCommand AppError α

def setLastSeen (userId : UserId) (now : Nat) : PresenceProgram Unit := .perform (.setLastSeen userId now)

/-- `now` is the current time, taken when Redis has no key. -/
def flushLastSeenToMongo (userId : UserId) (now : Nat) : PresenceProgram Unit := do
  let seen ← .perform (.getLastSeen userId)
  let _matched ← .perform (.setLastSeenAt userId (seen.getD now))
  .perform (.deleteLastSeenRedis userId)

inductive LastSeenSource where
  | redis | mongodb
  deriving DecidableEq

inductive LastSeenSocketResult where
  | ok (source : LastSeenSource) (lastSeenAt : Nat)
  | notAvailable
  | error (code message : String)
  deriving DecidableEq

/-- The second read of `resolveLastSeenForUser`. -/
def resolveFromMongo (userId : UserId) : PresenceProgram LastSeenSocketResult := do
  match ← .perform (.findLastSeenAt userId) with
  | some at' => pure (.ok .mongodb at')
  | none => pure .notAvailable

/-- The user id that a string names once it is trimmed. -/
def trimmedUserId (raw : String) : Option UserId :=
  if nonempty : EcmaText.trim raw = "" then none
  else some ⟨EcmaText.trim raw, EcmaText.trimmed_trim raw, nonempty⟩

def resolveLastSeenForUser (targetUserId : String) : PresenceProgram LastSeenSocketResult :=
  match trimmedUserId targetUserId with
  | none => pure (.error "invalid_payload" "targetUserId is required")
  | some userId => do
      match ← .perform (.getLastSeen userId) with
      | some ms => pure (.ok .redis ms)
      | none => resolveFromMongo userId

deriving instance DecidableEq for UserId

/-- `SocketAuthResult`, with the id of the user. -/
inductive SocketAuthResult where
  | ok (userId : UserId)
  | unauthenticated
  | emailNotVerified
  deriving DecidableEq

/-- `readUserIdFromHandshake`; `none` is an absent `auth`. -/
def readUserIdFromHandshake : Option Json → Option UserId
  | some (.object members) =>
      match Json.member members "userId" with
      | some (.string userId) => trimmedUserId userId
      | _ => none
  | _ => none

/-- What the `connection` handler keeps of a socket. -/
structure PresenceSocket where
  authAtConnect : SocketAuthResult
  userId : Option UserId
  lastHeartbeatWriteMs : Nat := 0

def onConnection (authAtConnect : SocketAuthResult) (handshakeAuth : Option Json) : PresenceSocket where
  authAtConnect := authAtConnect
  userId := match authAtConnect with
    | .ok userId => some userId
    | _ => readUserIdFromHandshake handshakeAuth

def PRESENCE_HEARTBEAT_REDIS_WRITE_MIN_INTERVAL_MS : Nat := 4500

def presenceHeartbeatAllowsRedisWrite (lastSuccessfulWriteMs nowMs : Nat) : Bool :=
  lastSuccessfulWriteMs = 0 || lastSuccessfulWriteMs + PRESENCE_HEARTBEAT_REDIS_WRITE_MIN_INTERVAL_MS ≤ nowMs

/-- The user whose last-seen time a heartbeat writes, if it is not throttled. -/
def PresenceSocket.onHeartbeat (socket : PresenceSocket) (now : Nat) : Option UserId :=
  if presenceHeartbeatAllowsRedisWrite socket.lastHeartbeatWriteMs now then socket.userId else none

end MessagingSystem.Source.Server

import MessagingSystem.Foundation.EcmaNumber
import MessagingSystem.Foundation.Requests
import MessagingSystem.Source.Server.Broker
import MessagingSystem.Source.Server.Presence
import MessagingSystem.Source.Server.RateLimit

/-!
# WebRTC signaling

`webrtcSocketHandlers.ts`, `webrtcSignalingSchemas.ts`, `webrtcSignalingAuthz.ts`,
`webrtcSignalRateLimit.ts` and `callIncomingNotification.ts`. A handler is given a
callback; its result is the acknowledgement. The text that `formatZodError` makes of
a refused payload is an argument.
-/
namespace MessagingSystem.Source.Server.Webrtc
open Foundation RateLimit

/-- What a handler does besides the limiter's and the checks' commands. A publish is answered
by whether it succeeded. -/
inductive RelayCommand : Type → Type where
  /-- `findUserById` for the caller, with its `username`. -/
  | findCaller (id : String) : RelayCommand (Option (UserDocument × Option String))
  | emit (room event : String) (payload : Json) : RelayCommand Unit
  | publishMessage (routingKey : String) (body : Json) : RelayCommand Bool

/-- One Redis or MongoDB command, an emission or a publish. -/
inductive SignalingCommand (β : Type) : Type where
  | redis (c : CounterCommand β)
  | mongo (c : ServerCommand β)
  | relay (c : RelayCommand β)

/-- `io.to(room).emit(event, payload)`. -/
structure SignalEmission where
  room : String
  event : String
  payload : Json

/-- Redis, MongoDB with the `username` of the users by their ids, the broker, and what has been emitted. -/
structure SignalingState where
  redis : RedisCounters := {}
  db : Database
  usernames : Record String := ∅
  brokerUp : Bool := true
  emitted : List SignalEmission := []

def RelayCommand.exec : {β : Type} → RelayCommand β → SignalingState → β × SignalingState
  | _, .findCaller id, s =>
      ((s.db.users.find? fun u => u.id = id).map fun u => (u, s.usernames.get id), s)
  | _, .emit room event payload, s => ((), { s with emitted := s.emitted ++ [⟨room, event, payload⟩] })
  | _, .publishMessage routingKey body, s =>
      if s.brokerUp then (true, { s with db := (ServerCommand.exec (.publish routingKey body) s.db).2 })
      else (false, s)

def SignalingCommand.exec {β : Type} : SignalingCommand β → SignalingState → β × SignalingState
  | .redis c, s => ((c.exec s.redis).1, { s with redis := (c.exec s.redis).2 })
  | .mongo c, s => ((c.exec s.db).1, { s with db := (c.exec s.db).2 })
  | .relay c, s => c.exec s

/-- What a command emits. -/
def RelayCommand.emissions : {β : Type} → RelayCommand β → List SignalEmission
  | _, .emit room event payload => [⟨room, event, payload⟩]
  | _, _ => []

def SignalingCommand.emissions {β : Type} : SignalingCommand β → List SignalEmission
  | .relay c => c.emissions
  | _ => []

/-- `{ ok: false, code, message }`. -/
structure AckError where
  code : String
  message : String
  deriving DecidableEq

abbrev SignalingProgram (α : Type) := Program SignalingCommand AckError α

def ackErrorOf (e : AppError) : AckError := ⟨e.code, e.message⟩

def ofRedis {α : Type} (p : CounterProgram α) : SignalingProgram α :=
  p.hoist (fun c => .redis c) ackErrorOf

def ofMongo {α : Type} (p : ServerProgram α) : SignalingProgram α :=
  p.hoist (fun c => .mongo c) ackErrorOf

def relay {α : Type} (c : RelayCommand α) : SignalingProgram α := .perform (.relay c)

section Schemas

/-- `z.string().min(min).max(max)`. -/
def boundedString (min max : Nat) (value : Option Json) : Option String :=
  (Json.asString value).filter fun s =>
    decide (min ≤ EcmaText.codeUnitLength s) && decide (EcmaText.codeUnitLength s ≤ max)

/-- `.optional()`. -/
def optional {α : Type} (schema : Option Json → Option α) : Option Json → Option (Option α)
  | none => some none
  | some value => (schema (some value)).map some

/-- `.nullable()`. -/
def nullable (schema : Option Json → Option Json) : Option Json → Option Json
  | some .null => some .null
  | value => schema value

def callIdSchema (value : Option Json) : Option String := boundedString 8 128 value

def userIdSchema (value : Option Json) : Option String := boundedString 1 128 value

def optionalConversationId (value : Option Json) : Option (Option String) := optional (boundedString 1 128) value

def sdpSchema (value : Option Json) : Option String := boundedString 1 262144 value

/-- `z.number().int().min(0)`, of a literal's exact value. -/
def lineIndexSchema : Option Json → Option Json
  | some (.number literal) => (EcmaNumber.readLiteral literal.toList).bind fun l =>
      let mantissa := Nat.ofDigitChars 10 (l.whole ++ l.fraction) 0
      let places := l.fraction.length - l.exponent
      let whole := mantissa % Nat.pow 10 places.toNat = 0
      if whole ∧ (l.negative = false ∨ mantissa = 0) ∧ l.magnitude ≤ 9007199254740991 then some (.number literal)
      else none
  | _ => none

def presentMember (name : String) (value : Option Json) : List (String × Json) :=
  (value.map fun v => (name, v)).toList

def candidateSchema (value : Option Json) : Option Json := do
  let o ← Json.asObject value
  let text (max : Nat) (value : Option Json) : Option Json := (boundedString 0 max value).map Json.string
  let candidate ← optional (text 4096) (Json.member o "candidate")
  let sdpMid ← optional (nullable (text 128)) (Json.member o "sdpMid")
  let sdpMLineIndex ← optional (nullable lineIndexSchema) (Json.member o "sdpMLineIndex")
  some (.object (presentMember "candidate" candidate ++ presentMember "sdpMid" sdpMid ++
    presentMember "sdpMLineIndex" sdpMLineIndex))

/-- What the four payloads share, and what is their own. -/
structure WebrtcSignal (β : Type) where
  toUserId : String
  callId : String
  own : β
  conversationId : Option String

def signalSchema {β : Type} (ownSchema : List (String × Json) → Option β) (raw : Json) : Option (WebrtcSignal β) := do
  let o ← Json.asObject (some raw)
  let toUserId ← userIdSchema (Json.member o "toUserId")
  let callId ← callIdSchema (Json.member o "callId")
  let own ← ownSchema o
  let conversationId ← optionalConversationId (Json.member o "conversationId")
  some ⟨toUserId, callId, own, conversationId⟩

def webrtcOfferSchema : Json → Option (WebrtcSignal String) := signalSchema fun o => sdpSchema (Json.member o "sdp")

def webrtcAnswerSchema : Json → Option (WebrtcSignal String) := signalSchema fun o => sdpSchema (Json.member o "sdp")

def webrtcIceCandidateSchema : Json → Option (WebrtcSignal Json) :=
  signalSchema fun o => candidateSchema (Json.member o "candidate")

def webrtcHangupSchema : Json → Option (WebrtcSignal Unit) := signalSchema fun _ => some ()

end Schemas

/-- The settings of the limits. -/
structure SignalingEnv where
  WEBRTC_SIGNAL_RATE_LIMIT_WINDOW_SEC : Nat
  WEBRTC_SIGNAL_RATE_LIMIT_MAX_PER_USER : Nat
  WEBRTC_SIGNAL_RATE_LIMIT_MAX_PER_IP : Nat
  WEBRTC_SIGNAL_RATE_LIMIT_MAX_PER_SOCKET : Nat
  /-- `JWT_SECRET` is set. -/
  hasJwtSecret : Bool := true

def isWebRtcSignalRateLimited (env : SignalingEnv) (userId ip socketId : String) : CounterProgram Bool := do
  let w := env.WEBRTC_SIGNAL_RATE_LIMIT_WINDOW_SEC
  let maxUser := env.WEBRTC_SIGNAL_RATE_LIMIT_MAX_PER_USER
  let maxIp := env.WEBRTC_SIGNAL_RATE_LIMIT_MAX_PER_IP
  let maxSocket := env.WEBRTC_SIGNAL_RATE_LIMIT_MAX_PER_SOCKET
  if ← RateLimit.rateLimitExceeded ("ratelimit:webrtc-signal:user:" ++ userId) w maxUser then pure true
  else if ← RateLimit.rateLimitExceeded ("ratelimit:webrtc-signal:ip:" ++ ip) w maxIp then pure true
  else if ← RateLimit.rateLimitExceeded ("ratelimit:webrtc-signal:socket:" ++ socketId) w maxSocket then pure true
  else pure false

def assertWebRtcSignalingPeerAllowed (fromUserId toUserId : String) : ServerProgram Unit := do
  let from' := EcmaText.trim fromUserId
  let to' := EcmaText.trim toUserId
  .require (from' ≠ "" && to' ≠ "") ⟨"INVALID_REQUEST", 400, "fromUserId and toUserId required"⟩
  .require (from' ≠ to') ⟨"INVALID_REQUEST", 400, "Cannot signal yourself"⟩
  let fromFound ← findUserById from'
  let toFound ← findUserById to'
  let fromUser ← .orFail fromFound ⟨"NOT_FOUND", 404, "User not found"⟩
  let toUser ← .orFail toFound ⟨"NOT_FOUND", 404, "Peer not found"⟩
  assertGuestGuestDirectMessagingAllowed fromUser toUser

/-- A signal as a socket emits it, with what its handler draws. -/
structure SignalRequest where
  auth : SocketAuthResult
  ip : String
  socketId : String
  raw : Json
  issues : String := ""
  notificationId : String := ""
  occurredAt : String := ""

/-- The user whose token the socket's handshake had. -/
def requireAuth (env : SignalingEnv) : SocketAuthResult → SignalingProgram UserId
  | .ok user => pure user
  | .emailNotVerified => .fail ⟨"EMAIL_NOT_VERIFIED", "Verify your email before using this resource"⟩
  | .unauthenticated => .fail ⟨"UNAUTHORIZED",
      if env.hasJwtSecret then "Missing or invalid bearer token" else "Authentication required"⟩

/-- What the four handlers share: they differ in the payload's schema and in what they emit. -/
def signalHandler {β : Type} (schema : Json → Option (WebrtcSignal β))
    (emits : UserId → WebrtcSignal β → SignalingProgram Unit) (env : SignalingEnv) (r : SignalRequest) :
    SignalingProgram Unit := do
  let user ← requireAuth env r.auth
  let limited ← ofRedis (isWebRtcSignalRateLimited env user.val r.ip r.socketId)
  .require (!limited) ⟨"RATE_LIMIT_EXCEEDED", "Too many WebRTC signaling messages; try again later"⟩
  let signal ← .orFail (schema r.raw) ⟨"INVALID_REQUEST", r.issues⟩
  ofMongo (assertWebRtcSignalingPeerAllowed user.val signal.toUserId)
  emits user signal

/-- `{ fromUserId, callId, own…, conversationId? }`. -/
def relayedPayload {β : Type} (fromUserId : String) (signal : WebrtcSignal β) (own : List (String × Json)) :
    List (String × Json) :=
  [("fromUserId", .string fromUserId), ("callId", .string signal.callId)] ++ own ++
    presentMember "conversationId" (signal.conversationId.map Json.string)

/-- `io.to('user:' + toUserId).emit(event, payload)`. -/
def emitToPeer {β : Type} (event : String) (own : β → List (String × Json)) (user : UserId)
    (signal : WebrtcSignal β) : SignalingProgram Unit :=
  relay (.emit ("user:" ++ signal.toUserId) event (.object (relayedPayload user.val signal (own signal.own))))

/-- The text, trimmed, unless it is blank. -/
def shownText (value : Option String) : Option String :=
  (value.map EcmaText.trim).filter fun s => s ≠ ""

def isWordChar (c : Char) : Bool := c.isAlphanum || c = '_'

/-- `\bm=video\b`, ignoring case, from here on, after the character before. -/
def hasVideoLine (before : Option Char) : List Char → Bool
  | [] => false
  | c :: rest =>
      (!(before.any isWordChar) && ((c :: rest).take 7).map Char.toLower = "m=video".toList &&
        !(((c :: rest).drop 7).head?.any isWordChar)) || hasVideoLine (some c) rest

def inferMediaFromWebRtcOfferSdp (sdp : String) : String :=
  if hasVideoLine none sdp.toList then "video" else "audio"

def buildCallIncomingKindNotificationPayload (r : SignalRequest) (callId callerUserId : String)
    (callerDisplayName : Option String) (sdp : String) (conversationId : Option String) : Json :=
  .object ([("schemaVersion", .number "1"), ("kind", .string "call_incoming"),
    ("notificationId", .string r.notificationId), ("occurredAt", .string r.occurredAt),
    ("media", .string (inferMediaFromWebRtcOfferSdp sdp)), ("callScope", .string "direct"),
    ("callId", .string callId), ("callerUserId", .string callerUserId),
    ("callerDisplayName", optionalString callerDisplayName)] ++
    presentMember "conversationId" (conversationId.map Json.string))

/-- The offer names the caller, and the callee is notified through the broker. -/
def relayOffer (r : SignalRequest) (user : UserId) (signal : WebrtcSignal String) : SignalingProgram Unit := do
  let caller ← relay (.findCaller user.val)
  let callerDisplayName := shownText (caller.bind fun c => c.1.displayName)
  let callerUsername := shownText (caller.bind fun c => c.2)
  let own := fun sdp => [("sdp", Json.string sdp)]
  relay (.emit ("user:" ++ signal.toUserId) "webrtc:offer" (.object (relayedPayload user.val signal (own signal.own) ++
    presentMember "callerDisplayName" (callerDisplayName.map Json.string) ++
    presentMember "callerUsername" (callerUsername.map Json.string))))
  let _published ← relay (.publishMessage (CALL_INCOMING_ROUTING_PREFIX ++ signal.toUserId)
    (buildCallIncomingKindNotificationPayload r signal.callId user.val callerDisplayName signal.own
      signal.conversationId))
  pure ()

def webrtcOffer (env : SignalingEnv) (r : SignalRequest) : SignalingProgram Unit :=
  signalHandler webrtcOfferSchema (relayOffer r) env r

def webrtcAnswer : SignalingEnv → SignalRequest → SignalingProgram Unit :=
  signalHandler webrtcAnswerSchema (emitToPeer "webrtc:answer" fun sdp => [("sdp", .string sdp)])

def webrtcCandidate : SignalingEnv → SignalRequest → SignalingProgram Unit :=
  signalHandler webrtcIceCandidateSchema (emitToPeer "webrtc:candidate" fun candidate => [("candidate", candidate)])

def webrtcHangup : SignalingEnv → SignalRequest → SignalingProgram Unit :=
  signalHandler webrtcHangupSchema (emitToPeer "webrtc:hangup" fun _ => [])

inductive SignalEvent where
  | offer | answer | candidate | hangup
  deriving DecidableEq

namespace SignalEvent

def name : SignalEvent → String
  | .offer => "webrtc:offer"
  | .answer => "webrtc:answer"
  | .candidate => "webrtc:candidate"
  | .hangup => "webrtc:hangup"

def handler : SignalEvent → SignalingEnv → SignalRequest → SignalingProgram Unit
  | .offer => webrtcOffer
  | .answer => webrtcAnswer
  | .candidate => webrtcCandidate
  | .hangup => webrtcHangup

/-- `toUserId` of a payload that the event's schema accepts. -/
def toUserId : SignalEvent → Json → Option String
  | .offer, raw => (webrtcOfferSchema raw).map WebrtcSignal.toUserId
  | .answer, raw => (webrtcAnswerSchema raw).map WebrtcSignal.toUserId
  | .candidate, raw => (webrtcIceCandidateSchema raw).map WebrtcSignal.toUserId
  | .hangup, raw => (webrtcHangupSchema raw).map WebrtcSignal.toUserId

/-- `callId` of a payload that the event's schema accepts. -/
def callId : SignalEvent → Json → Option String
  | .offer, raw => (webrtcOfferSchema raw).map WebrtcSignal.callId
  | .answer, raw => (webrtcAnswerSchema raw).map WebrtcSignal.callId
  | .candidate, raw => (webrtcIceCandidateSchema raw).map WebrtcSignal.callId
  | .hangup, raw => (webrtcHangupSchema raw).map WebrtcSignal.callId

/-- The event of a name. -/
def ofName (name : String) : Option SignalEvent :=
  [offer, answer, candidate, hangup].find? fun event => event.name = name

@[simp] theorem ofName_name (event : SignalEvent) : ofName event.name = some event := by
  cases event with
  | offer => decide
  | answer => decide
  | candidate => decide
  | hangup => decide

theorem name_inj {a b : SignalEvent} (same : a.name = b.name) : a = b := by
  have found := ofName_name a
  rw [same, ofName_name] at found
  exact (Option.some.inj found).symm

end SignalEvent

end MessagingSystem.Source.Server.Webrtc

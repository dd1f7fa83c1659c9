import MessagingSystem.Source.Client.SocketWorker

/-!
# The bridge to the socket worker

`socketBridge.ts` with the parsers of its acknowledgements, and what
`SocketWorkerProvider.tsx` keeps as the status of the connection. The four maps of
pending promises are one list, since a request is named with its kind. `settled`
records the promises that have been resolved or rejected.
-/
namespace MessagingSystem.Source.Client
open Foundation

/-- How a promise is settled, a resolved one with what the server answered. -/
inductive PromiseOutcome where
  | resolved (value : Json)
  | rejected (message : String)

/-- `{ code, message? }`, or else an acknowledgement that cannot be read. -/
def ackError (ack : Option Json) (invalid : String) : PromiseOutcome :=
  match (Json.asObject ack).bind fun o => (Json.asString (Json.member o "code")).map fun code => (o, code) with
  | some (o, code) => .rejected ((Json.asString (Json.member o "message")).getD code)
  | none => .rejected invalid

/-- An object whose `id` and `conversationId` are strings. -/
def isSuccessMessageAck (ack : Option Json) : Bool :=
  match Json.asObject ack with
  | some o => (Json.asString (Json.member o "id")).isSome && (Json.asString (Json.member o "conversationId")).isSome
  | none => false

def parseMessageSendAck (ack : Option Json) : PromiseOutcome :=
  if isSuccessMessageAck ack then .resolved (ack.getD .null) else ackError ack "Invalid message:send ack"

/-- `ack.ok === true`. -/
def isOkAck (ack : Option Json) : Bool :=
  match (Json.asObject ack).bind fun o => Json.member o "ok" with
  | some (.bool ok) => ok
  | _ => false

/-- The two kinds that resolve with nothing. -/
def parseOkAck (invalid : String) (ack : Option Json) : PromiseOutcome :=
  if isOkAck ack then .resolved .null else ackError ack invalid

def parseReceiptEmitAck : Option Json → PromiseOutcome := parseOkAck "Invalid receipt emit ack"

def parseWebRtcEmitAck : Option Json → PromiseOutcome := parseOkAck "Invalid WebRTC emit ack"

/-- `{ status: 'ok', source, lastSeenAt }` of an object with these members. -/
def lastSeenOk (o : List (String × Json)) : Option Json := do
  let source ← (Json.asString (Json.member o "source")).filter fun s => s = "redis" || s = "mongodb"
  let lastSeenAt ← (Json.asString (Json.member o "lastSeenAt")).filter fun s => s ≠ ""
  some (.object [("status", .string "ok"), ("source", .string source), ("lastSeenAt", .string lastSeenAt)])

def parsePresenceGetLastSeenAck (ack : Option Json) : PromiseOutcome :=
  match Json.asObject ack with
  | none => .rejected "Invalid presence:getLastSeen ack"
  | some o =>
      match Json.asString (Json.member o "status") with
      | some "ok" => (lastSeenOk o).elim (ackError ack "Invalid presence:getLastSeen ack") .resolved
      | some "not_available" => .resolved (.object [("status", .string "not_available")])
      | some "error" =>
          .rejected ((Json.asString (Json.member o "message")).getD "presence:getLastSeen failed")
      | _ => ackError ack "Invalid presence:getLastSeen ack"

def RequestKind.parseAck : RequestKind → Option Json → PromiseOutcome
  | .messageSend => parseMessageSendAck
  | .receiptEmit => parseReceiptEmitAck
  | .webrtcEmit => parseWebRtcEmitAck
  | .presenceGetLastSeen => parsePresenceGetLastSeenAck

/-- The request that a message to the worker makes. -/
def MainToWorkerMessage.request : MainToWorkerMessage → Option RequestRef
  | .messageSend requestId _ => some (.messageSend, requestId)
  | .receiptEmit requestId _ _ => some (.receiptEmit, requestId)
  | .webrtcEmit requestId _ _ => some (.webrtcEmit, requestId)
  | .presenceGetLastSeen requestId _ => some (.presenceGetLastSeen, requestId)
  | _ => none

inductive PresenceConnectionStatus where
  | idle
  | connecting
  | connected (socketId : Option String)
  | disconnected (reason : String)
  | error (message : String)

inductive SocketIoLifecycle where
  | connecting | connected | disconnected
  deriving DecidableEq

def mapPresenceToSocketLifecycle : PresenceConnectionStatus → SocketIoLifecycle
  | .idle => .disconnected
  | .connecting => .connecting
  | .connected _ => .connected
  | .disconnected _ => .disconnected
  | .error _ => .disconnected

/-- The status that the provider applies for a message of the worker. -/
def WorkerToMainMessage.status : WorkerToMainMessage → Option PresenceConnectionStatus
  | .socketConnecting => some .connecting
  | .connected socketId => some (.connected socketId)
  | .disconnected reason => some (.disconnected reason)
  | .connectError message => some (.error message)
  | _ => none

structure SocketBridge where
  pending : List RequestRef := []
  settled : List (RequestRef × PromiseOutcome) := []
  terminated : Bool := false
  /-- `presenceStatus` of the provider that made the bridge. -/
  status : PresenceConnectionStatus := .connecting

namespace SocketBridge

variable (b : SocketBridge)

/-- `worker.onmessage`: an acknowledgement settles the promise that waits for it. -/
def onmessage : WorkerToMainMessage → SocketBridge
  | .ack request ack =>
      if request ∈ b.pending then
        { b with
          pending := b.pending.erase request
          settled := b.settled ++ [(request, request.1.parseAck ack)] }
      else b
  | msg => { b with status := msg.status.getD b.status }

/-- The maps are cleared and the worker is stopped. -/
def terminate : SocketBridge := { b with pending := [], terminated := true }

end SocketBridge

end MessagingSystem.Source.Client

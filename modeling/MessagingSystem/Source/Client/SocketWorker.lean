import MessagingSystem.Source.Client.CryptoSlice
import MessagingSystem.Source.Client.SocketNotification
import MessagingSystem.Source.Server.WebrtcSignaling

/-!
# The socket worker of a tab

`socketWorker.ts` with `socketWorkerProtocol.ts`. A client is what one `io()` call has
made, numbered by the generation it was made in. `timers` are the `setTimeout` calls
that run, each with the request of its closure; `awaiting` are the emissions whose
callback Socket.IO still holds. `emitted` and `refused` record the requests that have been
emitted and those that the worker has answered on its own, and `heartbeats` the
generations of the clients on which `presence:heartbeat` has been emitted.
-/
namespace MessagingSystem.Source.Client
open Foundation
open Source.Server.Webrtc (SignalEvent)

/-- The fastest tick that the service does not throttle. -/
def PRESENCE_HEARTBEAT_COMPACT_MS : Nat := 4500

def PRESENCE_HEARTBEAT_RELAXED_MS : Nat := 5000

def MESSAGE_SEND_QUEUE_TIMEOUT_MS : Nat := 30000

inductive HeartbeatMode where
  | default | activeThread
  deriving DecidableEq

def HeartbeatMode.intervalMs : HeartbeatMode → Nat
  | .default => PRESENCE_HEARTBEAT_RELAXED_MS
  | .activeThread => PRESENCE_HEARTBEAT_COMPACT_MS

/-- The requests that are acknowledged. -/
inductive RequestKind where
  | messageSend | receiptEmit | webrtcEmit | presenceGetLastSeen
  deriving DecidableEq

/-- A request: its kind and its `requestId`. -/
abbrev RequestRef := RequestKind × String

inductive MainToWorkerMessage where
  | connect (url userId : String) (accessToken : Option String)
  | messageSend (requestId : String) (payload : Json)
  | receiptEmit (requestId event : String) (payload : Json)
  | webrtcEmit (requestId : String) (event : SignalEvent) (payload : Json)
  | presenceGetLastSeen (requestId targetUserId : String)
  | presenceHeartbeatMode (mode : HeartbeatMode)
  | disconnect

/-- The acknowledgements of the four kinds are one constructor; `ack` is missing where the server gives none. -/
inductive WorkerToMainMessage where
  | socketConnecting
  | connected (socketId : Option String)
  | disconnected (reason : String)
  | connectError (message : String)
  | notification (payload : ParsedNotificationPayload)
  | messageNew (payload : Json)
  | messageDelivered (payload : Json)
  | messageRead (payload : Json)
  | conversationRead (payload : Json)
  | deviceSyncRequested (payload : DeviceSyncRequestedPayload)
  | deviceSyncComplete (targetDeviceId : String)
  | webrtcInbound (event : SignalEvent) (payload : Json)
  | ack (request : RequestRef) (ack : Option Json)

/-- The events that the worker listens to on a client, with what they carry. -/
inductive ClientEvent where
  | reconnectAttempt
  | connect (socketId : Option String)
  | disconnect (reason : String)
  | connectError (message : String)
  | notification (raw : Json)
  | messageNew (payload : Json)
  | messageDelivered (payload : Json)
  | messageRead (payload : Json)
  | conversationRead (payload : Json)
  | deviceSyncRequested (raw : Json)
  | deviceSyncComplete (raw : Json)
  | webrtc (event : SignalEvent) (payload : Json)

/-- A client of `io(url, { auth })`. -/
structure SocketClient where
  generation : Nat
  url : String
  userId : String
  token : Option String
  connected : Bool := false

/-- One `socket.emit` with a callback. -/
structure SocketEmission where
  generation : Nat
  request : RequestRef
  event : String
  payload : Json

structure PendingSend where
  requestId : String
  payload : Json
  timeoutId : Nat

structure SocketWorker where
  socket : Option SocketClient := none
  socketConnectGeneration : Nat := 0
  /-- The interval of the heartbeat that runs. -/
  heartbeatTimer : Option Nat := none
  heartbeatIntervalMs : Nat := PRESENCE_HEARTBEAT_RELAXED_MS
  pendingMessageSendQueue : List PendingSend := []
  timers : List (Nat × String) := []
  nextTimeoutId : Nat := 0
  awaiting : List SocketEmission := []
  posted : List WorkerToMainMessage := []
  emitted : List SocketEmission := []
  refused : List RequestRef := []
  heartbeats : List Nat := []

namespace SocketWorker

variable (w : SocketWorker)

/-- `socket?.connected`. -/
def isConnected : Bool := w.socket.any SocketClient.connected

def post (msg : WorkerToMainMessage) : SocketWorker := { w with posted := w.posted ++ [msg] }

def clearTimeout (timeoutId : Nat) : SocketWorker :=
  { w with timers := w.timers.filter fun timer => timer.1 ≠ timeoutId }

/-- The acknowledgement that the worker gives itself. -/
def unavailable (message : String) : Json := .object [("code", .string "UNAVAILABLE"), ("message", .string message)]

def refuse (request : RequestRef) (message : String) : SocketWorker :=
  { w.post (.ack request (some (unavailable message))) with refused := w.refused ++ [request] }

/-- `socket!.emit(event, payload, callback)`. -/
def emit (request : RequestRef) (event : String) (payload : Json) : SocketWorker :=
  match w.socket with
  | none => w
  | some client =>
      { w with
        awaiting := w.awaiting ++ [⟨client.generation, request, event, payload⟩]
        emitted := w.emitted ++ [⟨client.generation, request, event, payload⟩] }

def emitMessageSend (requestId : String) (payload : Json) : SocketWorker :=
  w.emit (.messageSend, requestId) "message:send" payload

/-- The loop over the queue, which is emptied behind it. -/
def clearQueueLoop (message : String) (w : SocketWorker) : List PendingSend → SocketWorker
  | [] => w
  | item :: rest =>
      clearQueueLoop message ((w.clearTimeout item.timeoutId).refuse (.messageSend, item.requestId) message) rest

def clearPendingMessageSendQueue (message : String) : SocketWorker :=
  { clearQueueLoop message w w.pendingMessageSendQueue with pendingMessageSendQueue := [] }

/-- The loop that shifts items off the queue while the socket is connected. -/
def flushLoop (w : SocketWorker) : List PendingSend → SocketWorker
  | [] => w
  | item :: rest =>
      if w.isConnected then
        flushLoop (({ w with pendingMessageSendQueue := rest }.clearTimeout item.timeoutId).emitMessageSend
          item.requestId item.payload) rest
      else w

def flushPendingMessageSends : SocketWorker := flushLoop w w.pendingMessageSendQueue

def tryMessageSendOrQueue (requestId : String) (payload : Json) : SocketWorker :=
  if w.isConnected then w.emitMessageSend requestId payload
  else
    { w with
      timers := w.timers ++ [(w.nextTimeoutId, requestId)]
      nextTimeoutId := w.nextTimeoutId + 1
      pendingMessageSendQueue := w.pendingMessageSendQueue ++ [⟨requestId, payload, w.nextTimeoutId⟩] }

/-- The callback of the timer of a queued send. -/
def sendTimedOut (requestId : String) : SocketWorker :=
  match w.pendingMessageSendQueue.findIdx? fun q => q.requestId = requestId with
  | none => w
  | some idx =>
      { w with pendingMessageSendQueue := w.pendingMessageSendQueue.eraseIdx idx }.refuse (.messageSend, requestId)
        "Timed out waiting for chat connection"

/-- A timer that runs out is gone when its callback is called. -/
def timeout (timeoutId : Nat) (requestId : String) : SocketWorker := (w.clearTimeout timeoutId).sendTimedOut requestId

def clearHeartbeat : SocketWorker := { w with heartbeatTimer := none }

def startHeartbeat : SocketWorker := { w.clearHeartbeat with heartbeatTimer := some w.heartbeatIntervalMs }

/-- The callback of the interval. -/
def heartbeatTick : SocketWorker :=
  match w.socket with
  | some client => if client.connected then { w with heartbeats := w.heartbeats ++ [client.generation] } else w
  | none => w

def applyHeartbeatMode (mode : HeartbeatMode) : SocketWorker :=
  if mode.intervalMs = w.heartbeatIntervalMs then w
  else
    let w := { w with heartbeatIntervalMs := mode.intervalMs }
    if w.isConnected then w.startHeartbeat else w

/-- `msg.accessToken?.trim()`, unless it is blank. -/
def trimmedToken (accessToken : Option String) : Option String :=
  (accessToken.map EcmaText.trim).filter fun token => token ≠ ""

/-- The previous client is disconnected under a generation that is not its own, so that its handlers do nothing. -/
def connectSocket (url userId : String) (accessToken : Option String) : SocketWorker :=
  let w := { w with socketConnectGeneration := w.socketConnectGeneration + 1 }.clearHeartbeat
  let w := if w.socket.isSome then w.post (.disconnected "reconnect") else w
  { w.post .socketConnecting with
    socket := some ⟨w.socketConnectGeneration, url, userId, trimmedToken accessToken, false⟩ }

/-- `device:sync_requested` with two strings. -/
def syncRequestedPayload (raw : Json) : Option DeviceSyncRequestedPayload := do
  let o ← Json.asObject (some raw)
  let newDeviceId ← Json.asString (Json.member o "newDeviceId")
  let newDevicePublicKey ← Json.asString (Json.member o "newDevicePublicKey")
  some ⟨newDeviceId, newDevicePublicKey⟩

/-- `device:sync_complete` with an id that is not blank. -/
def syncCompleteTarget (raw : Json) : Option String := do
  let o ← Json.asObject (some raw)
  (nonBlankText o "targetDeviceId").map EcmaText.trim

/-- What a handler of the current client posts. -/
def relayed : ClientEvent → Option WorkerToMainMessage
  | .reconnectAttempt => some .socketConnecting
  | .connect socketId => some (.connected socketId)
  | .disconnect reason => some (.disconnected reason)
  | .connectError message => some (.connectError message)
  | .notification raw => (parseNotificationWorkerPayload raw).map .notification
  | .messageNew payload => some (.messageNew payload)
  | .messageDelivered payload => some (.messageDelivered payload)
  | .messageRead payload => some (.messageRead payload)
  | .conversationRead payload => some (.conversationRead payload)
  | .deviceSyncRequested raw => (syncRequestedPayload raw).map .deviceSyncRequested
  | .deviceSyncComplete raw => (syncCompleteTarget raw).map .deviceSyncComplete
  | .webrtc event payload => some (.webrtcInbound event payload)

/-- The handlers of a client. -/
def handled : ClientEvent → SocketWorker
  | .connect socketId => ((w.post (.connected socketId)).startHeartbeat).flushPendingMessageSends
  | .disconnect reason => w.clearHeartbeat.post (.disconnected reason)
  | event => (relayed event).elim w w.post

/-- Each handler is behind the same check of its client's generation. -/
def onClient (generation : Nat) (event : ClientEvent) : SocketWorker :=
  if generation ≠ w.socketConnectGeneration then w else w.handled event

/-- A request that is emitted at once or refused. -/
def emitOrRefuse (request : RequestRef) (event : String) (payload : Json) : SocketWorker :=
  if w.isConnected then w.emit request event payload else w.refuse request "Socket not connected"

/-- `self.onmessage`. -/
def onMessage : MainToWorkerMessage → SocketWorker
  | .disconnect =>
      let w := { w with socketConnectGeneration := w.socketConnectGeneration + 1 }
      let w := (w.clearPendingMessageSendQueue "Socket not connected").clearHeartbeat
      { w with heartbeatIntervalMs := PRESENCE_HEARTBEAT_RELAXED_MS, socket := none }.post (.disconnected "client")
  | .presenceHeartbeatMode mode => w.applyHeartbeatMode mode
  | .messageSend requestId payload => w.tryMessageSendOrQueue requestId payload
  | .receiptEmit requestId event payload => w.emitOrRefuse (.receiptEmit, requestId) event payload
  | .webrtcEmit requestId event payload => w.emitOrRefuse (.webrtcEmit, requestId) event.name payload
  | .presenceGetLastSeen requestId targetUserId =>
      w.emitOrRefuse (.presenceGetLastSeen, requestId) "presence:getLastSeen"
        (.object [("targetUserId", .string (EcmaText.trim targetUserId))])
  | .connect url userId accessToken => w.connectSocket url userId accessToken

/-- The callback of an emission, which Socket.IO calls once. -/
def acked (i : Nat) (ack : Option Json) : SocketWorker :=
  match w.awaiting[i]? with
  | none => w
  | some emission => { w with awaiting := w.awaiting.eraseIdx i }.post (.ack emission.request ack)

/-- What the library does to the client before it calls the handlers. -/
def withConnected (connected : Bool) : SocketWorker :=
  { w with socket := w.socket.map fun client => { client with connected := connected } }

end SocketWorker

end MessagingSystem.Source.Client

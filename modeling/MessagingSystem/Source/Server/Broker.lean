import MessagingSystem.Source.Server.SendMessage

/-!
# The broker consumer

`rabbitmq.ts` and `messageNotification.ts`: the queue of an instance, the
routing keys, the bodies, and what a consumed message makes the instance emit.
A body is the JSON that `publishMessage` encoded. The Socket.IO server is
registered; the call of `findUserById` and the values a notification draws are
arguments.
-/
namespace MessagingSystem.Source.Server
open Foundation

def MESSAGE_ROUTING_PREFIX : String := "message"

def CALL_INCOMING_ROUTING_PREFIX : String := "message.call.user."

/-- The character class `[a-zA-Z0-9._-]`. -/
def isQueueNameChar (c : Char) : Bool :=
  ('a' ≤ c && c ≤ 'z') || ('A' ≤ c && c ≤ 'Z') || ('0' ≤ c && c ≤ '9') ||
    c = '.' || c = '_' || c = '-'

/-- The queue of a replica; other characters become one `-` per code unit. -/
def instanceQueueName (instanceId : String) : String :=
  let safe := (instanceId.toList.flatMap fun c =>
    if isQueueNameChar c then [c] else List.replicate (EcmaText.charUnits c) '-').take 200
  "messaging.node." ++ if safe = [] then "default" else String.ofList safe

/-- The id after the start of a routing key. -/
def routingTarget (start routingKey : String) : Option String :=
  if EcmaText.startsWith routingKey start then
    let id := EcmaText.trim (EcmaText.dropStart routingKey start)
    if id ≠ "" then some id else none
  else none

def parseDirectUserRoutingKey (routingKey : String) : Option String :=
  routingTarget (MESSAGE_ROUTING_PREFIX ++ ".user.") routingKey

def parseGroupRoutingKey (routingKey : String) : Option String :=
  routingTarget (MESSAGE_ROUTING_PREFIX ++ ".group.") routingKey

def parseCallIncomingRoutingKey (routingKey : String) : Option String :=
  routingTarget CALL_INCOMING_ROUTING_PREFIX routingKey

def parseReceiptRoutingKey (routingKey : String) : Option String :=
  routingTarget (MESSAGE_ROUTING_PREFIX ++ ".receipt.") routingKey

section Bodies

/-- A string that is not empty. -/
def nonemptyString (value : Option Json) : Option String :=
  (Json.asString value).filter fun s => s ≠ ""

/-- The members of an `Message` as the API writes it. -/
abbrev MessageApiPayload := List (String × Json)

structure BrokerPayload where
  message : MessageApiPayload
  skipSocketId : Option String

/-- The members of an object whose `id` is a string. -/
def withStringId (value : Option Json) : Option MessageApiPayload :=
  (Json.asObject value).filter fun o => (Json.asString (Json.member o "id")).isSome

/-- The sender echo `{ message, skipSocketId? }`, or else a flat message. -/
def parseBrokerPayload (body : Json) : Option BrokerPayload := do
  let o ← Json.asObject (some body)
  match withStringId (Json.member o "message") with
  | some message => some ⟨message, nonemptyString (Json.member o "skipSocketId")⟩
  | none => (withStringId (some body)).map fun message => ⟨message, none⟩

structure ReceiptBrokerPayload where
  socketEvent : String
  data : Json
  skipSocketId : Option String

def isReceiptSocketEventName (s : String) : Bool :=
  s = "message:delivered" || s = "message:read" || s = "conversation:read"

def parseReceiptBrokerPayload (body : Json) : Option ReceiptBrokerPayload := do
  let o ← Json.asObject (some body)
  let socketEvent ← (Json.asString (Json.member o "socketEvent")).filter isReceiptSocketEventName
  let d ← Json.asObject (Json.member o "data")
  let messageId ← Json.asString (Json.member d "messageId")
  let conversationId ← Json.asString (Json.member d "conversationId")
  let userId ← Json.asString (Json.member d "userId")
  let at' ← Json.asString (Json.member d "at")
  some ⟨socketEvent,
    .object [("messageId", .string messageId), ("conversationId", .string conversationId),
      ("userId", .string userId), ("at", .string at')],
    nonemptyString (Json.member o "skipSocketId")⟩

/-- `callIncomingKindNotificationSchema`: unknown members are stripped. -/
def parseCallIncomingNotificationBrokerBody (body : Json) : Option Json := do
  let o ← Json.asObject (some body)
  let text (name : String) : Option String := nonemptyString (Json.member o name)
  let literal (name value : String) : Option Unit :=
    if Json.asString (Json.member o name) = some value then some () else none
  match Json.member o "schemaVersion" with
  | some (.number "1") => some ()
  | _ => none
  literal "kind" "call_incoming"
  let notificationId ← text "notificationId"
  let occurredAt ← text "occurredAt"
  let media ← (text "media").filter fun m => m = "audio" || m = "video"
  literal "callScope" "direct"
  let callId ← text "callId"
  let callerUserId ← text "callerUserId"
  let callerDisplayName ← match Json.member o "callerDisplayName" with
    | some .null => some Json.null
    | some (.string name) => some (Json.string name)
    | _ => none
  let conversation ← match Json.member o "conversationId" with
    | none => some []
    | some value => (nonemptyString (some value)).map fun id => [("conversationId", Json.string id)]
  some (.object ([("schemaVersion", .number "1"), ("kind", .string "call_incoming"),
    ("notificationId", .string notificationId), ("occurredAt", .string occurredAt),
    ("media", .string media), ("callScope", .string "direct"), ("callId", .string callId),
    ("callerUserId", .string callerUserId), ("callerDisplayName", callerDisplayName)] ++
    conversation))

end Bodies

section Notifications

def MESSAGE_NOTIFICATION_PREVIEW_MAX : Nat := 160

def E2EE_LEGACY_PREFIX : String := "E2EE_JSON_V1:"

/-- `message[name]?.trim() ?? ''`. -/
def trimmedMember (message : MessageApiPayload) (name : String) : String :=
  EcmaText.trim ((Json.asString (Json.member message name)).getD "")

def messageLooksOpaqueE2ee (message : MessageApiPayload) : Bool :=
  (match Json.asObject (Json.member message "encryptedMessageKeys") with
    | some keys => !keys.isEmpty
    | none => false) ||
  trimmedMember message "iv" ≠ "" || trimmedMember message "algorithm" ≠ "" ||
  EcmaText.startsWith (trimmedMember message "body") E2EE_LEGACY_PREFIX

/-- The preview as code units: the cut may fall inside a surrogate pair. -/
def buildMessagePreview (message : MessageApiPayload) : Option (List Nat) :=
  if messageLooksOpaqueE2ee message then some (EcmaText.codeUnits "Encrypted message")
  else
    let text := EcmaText.codeUnits (trimmedMember message "body")
    if 0 < text.length then
      if text.length ≤ MESSAGE_NOTIFICATION_PREVIEW_MAX then some text
      else some (text.take (MESSAGE_NOTIFICATION_PREVIEW_MAX - 1) ++ EcmaText.codeUnits "…")
    else if trimmedMember message "mediaKey" ≠ "" then some (EcmaText.codeUnits "Attachment")
    else none

/-- `kind: 'message'`, `schemaVersion: 1`. -/
structure MessageKindNotificationPayload where
  notificationId : String
  occurredAt : String
  threadType : String
  conversationId : Option Json
  messageId : Option Json
  senderUserId : Option Json
  senderDisplayName : Option String
  preview : Option (List Nat)
  groupId : Option String := none
  groupTitle : Option String := none

/-- What a consumer reads and draws while it handles one message. -/
structure ConsumerReads where
  sender : Option UserDocument
  notificationId : String
  occurredAt : String

/-- `sender?.displayName?.trim() ? sender.displayName.trim() : null`. -/
def ConsumerReads.senderDisplayName (reads : ConsumerReads) : Option String :=
  ((reads.sender.bind fun u => u.displayName).map EcmaText.trim).filter fun name => name ≠ ""

def buildMessageKindNotificationPayload (reads : ConsumerReads) (message : MessageApiPayload)
    (threadType : String) (groupId : Option String) : MessageKindNotificationPayload :=
  { notificationId := reads.notificationId
    occurredAt := reads.occurredAt
    threadType
    conversationId := Json.member message "conversationId"
    messageId := Json.member message "id"
    senderUserId := Json.member message "senderId"
    senderDisplayName := reads.senderDisplayName
    preview := buildMessagePreview message
    groupId := (groupId.map EcmaText.trim).filter fun id => id ≠ "" }

end Notifications

section Delivery

inductive SocketEvent where
  | messageNew (message : MessageApiPayload)
  | receipt (name : String) (data : Json)
  | notification (payload : MessageKindNotificationPayload)
  | callIncoming (payload : Json)

/-- `io.to(room).except(socketId).emit(event)`. -/
structure Emission where
  room : String
  except : Option String := none
  event : SocketEvent

def deliverReceiptToSocketIo (targetUserId : String) (body : Json) : List Emission :=
  match parseReceiptBrokerPayload body with
  | none => []
  | some parsed =>
      [⟨"user:" ++ targetUserId, parsed.skipSocketId, .receipt parsed.socketEvent parsed.data⟩]

def deliverCallIncomingNotificationToSocketIo (calleeUserId : String) (body : Json) :
    List Emission :=
  match parseCallIncomingNotificationBrokerBody body with
  | none => []
  | some parsed => [⟨"user:" ++ calleeUserId, none, .callIncoming parsed⟩]

def deliverGroupMessage (reads : ConsumerReads) (groupId : String) (body : Json) : List Emission :=
  match parseBrokerPayload body with
  | none => []
  | some parsed =>
      [⟨"group:" ++ groupId, parsed.skipSocketId, .messageNew parsed.message⟩,
        ⟨"group:" ++ groupId, parsed.skipSocketId, .notification
          (buildMessageKindNotificationPayload reads parsed.message "group" (some groupId))⟩]

def emitMessageNotificationDirect (reads : ConsumerReads) (recipientUserId : String)
    (message : MessageApiPayload) : Emission :=
  ⟨"user:" ++ recipientUserId, none,
    .notification (buildMessageKindNotificationPayload reads message "direct" none)⟩

/-- The notification belongs to the recipient fan-out only; the test for that
is that no socket is skipped. -/
def deliverDirectMessage (reads : ConsumerReads) (userId : String) (body : Json) : List Emission :=
  match parseBrokerPayload body with
  | none => []
  | some parsed =>
      match parsed.skipSocketId with
      | some socketId => [⟨"user:" ++ userId, some socketId, .messageNew parsed.message⟩]
      | none =>
          [⟨"user:" ++ userId, none, .messageNew parsed.message⟩,
            emitMessageNotificationDirect reads userId parsed.message]

def deliverMessageToSocketIo (reads : ConsumerReads) (routingKey : String) (body : Json) :
    List Emission :=
  match parseReceiptRoutingKey routingKey with
  | some receiptTarget => deliverReceiptToSocketIo receiptTarget body
  | none =>
    match parseCallIncomingRoutingKey routingKey with
    | some calleeUserId => deliverCallIncomingNotificationToSocketIo calleeUserId body
    | none =>
      match parseGroupRoutingKey routingKey with
      | some groupId => deliverGroupMessage reads groupId body
      | none =>
        match parseDirectUserRoutingKey routingKey with
        | some userId => deliverDirectMessage reads userId body
        | none => []

end Delivery

end MessagingSystem.Source.Server

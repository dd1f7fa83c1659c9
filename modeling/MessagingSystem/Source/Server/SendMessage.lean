import MessagingSystem.Foundation.EcmaDate
import MessagingSystem.Source.Server.Conversations
import MessagingSystem.Source.Server.DeviceDirectory

/-!
# Sending a direct message

`sendMessageForUser`: the payload is normalized, the direct thread resolved or
created, the message inserted and handed to the broker twice, once for the
recipient and once as the echo for the sender's other sockets. Between guests the
message, and the thread it creates, get the date at which they expire.
-/
namespace MessagingSystem.Source.Server
open Foundation

structure SendMessageRequest where
  conversationId : Nullable String := .undefined
  recipientUserId : Nullable String := .undefined
  body : Nullable String := .undefined
  mediaKey : Nullable String := .undefined
  encryptedMessageKeys : Option (Record String) := none
  iv : Nullable String := .undefined
  algorithm : Nullable String := .undefined

/-- The values a send draws: the ids of a new thread and of the message, and the
clock; and the horizon `GUEST_DATA_MONGODB_TTL_SECONDS` of its environment. -/
structure SendStamp where
  conversationUuid : String
  messageUuid : String
  now : Nat
  guestDataTtlSeconds : Nat := 86400

/-- `normalizeBodyText` and `normalizeMediaKey`. -/
def normalizeText (f : Nullable String) : Option String :=
  match f with
  | .value s => if EcmaText.trim s = "" then none else some (EcmaText.trim s)
  | _ => none

/-- `normalizeIv` and `normalizeAlgorithm`: an absent field stays absent. -/
def normalizeEnvelopeField (f : Nullable String) : Nullable String :=
  match f with
  | .value s => if EcmaText.trim s = "" then .null else .value (EcmaText.trim s)
  | other => other

/-- The media locator of a hybrid message lives inside the ciphertext only. -/
def hasHybridEnvelope (payload : SendMessageRequest) : Bool :=
  (match payload.encryptedMessageKeys with
    | some keys => decide (0 < keys.size)
    | none => false) &&
  (normalizeEnvelopeField payload.algorithm).toOption.isSome

def storedMediaKey (payload : SendMessageRequest) : Option String :=
  if hasHybridEnvelope payload then none else normalizeText payload.mediaKey

/-- `assertGuestGuestDirectMessagingAllowed`. -/
def assertGuestGuestDirectMessagingAllowed (sender recipient : UserDocument) : ServerProgram Unit :=
  .require (sender.isGuest = recipient.isGuest)
    ⟨"GUEST_MESSAGING_FORBIDDEN", 403,
      if sender.isGuest then "Guests can only message other guests"
      else "Registered users cannot message guest accounts"⟩

/-- `findUserById`. -/
def findUserById (id : String) : ServerProgram (Option UserDocument) :=
  let trimmed := EcmaText.trim id
  if trimmed = "" then pure none else .perform (.findUser trimmed)

/-- The date at which guest data that is stored now expires. -/
def computeGuestDataExpiresAt (stamp : SendStamp) (effective : EffectiveRuntimeConfig) : Option Nat :=
  if effective.guestDataTtlEnabled then some (stamp.now + stamp.guestDataTtlSeconds * 1000) else none

/-- The expiry date for the thread and the message of two guests. -/
def resolveGuestGuestDataExpiresAt (stamp : SendStamp) (senderId recipientId : String) :
    ServerProgram (Option Nat) := do
  let cfg ← .perform .getEffectiveRuntimeConfig
  if cfg.guestDataTtlEnabled then do
    let a ← findUserById senderId
    let b ← findUserById recipientId
    if (a.any fun u => u.isGuest) && b.any fun u => u.isGuest then
      pure (computeGuestDataExpiresAt stamp cfg)
    else pure none
  else pure none

def optionalString : Option String → Json
  | some s => .string s
  | none => .null

/-- A member that is left out when the field is `undefined`. -/
def optionalMember (name : String) : Nullable String → List (String × Json)
  | .undefined => []
  | .null => [(name, .null)]
  | .value s => [(name, .string s)]

/-- The `encryptedMessageKeys` member; the order of a record's names is not observable. -/
def keyMembers : Option (Record String) → List (String × Json)
  | none => []
  | some keys =>
      [("encryptedMessageKeys", .object (keys.names.map fun name =>
        (name, .string ((keys.get name).getD ""))))]

/-- The members of the API shape of a message. -/
def messageMembers (m : MessageDocument) : List (String × Json) :=
  [("id", .string m.id), ("conversationId", .string m.conversationId),
    ("senderId", .string m.senderId), ("body", optionalString m.body),
    ("mediaKey", optionalString m.mediaKey),
    ("createdAt", .string (EcmaDate.toISOString m.createdAt))] ++
    keyMembers m.encryptedMessageKeys ++ optionalMember "iv" m.iv ++
    optionalMember "algorithm" m.algorithm

/-- `messageDocumentToApi`, as the JSON that is published. -/
def messageDocumentToApi (m : MessageDocument) : Json := .object (messageMembers m)

/-- The sender echo `{ message, skipSocketId }`. -/
def senderEcho (message : Json) (originSocketId : Option String) : Json :=
  .object (("message", message) ::
    match originSocketId with
    | some socketId => [("skipSocketId", .string socketId)]
    | none => [])

/-- `insertMessage`: the message is stored and its thread touched. -/
def insertMessage (doc : MessageDocument) : ServerProgram Unit := do
  let inserted ← .perform (.insertMessage doc)
  .require inserted internalServerError
  .perform (.touchConversation doc.conversationId doc.createdAt)

/-- The document a send stores. -/
def newMessage (conversationId senderId : String) (payload : SendMessageRequest)
    (stamp : SendStamp) (guestDataExpiresAt : Option Nat) : MessageDocument :=
  { id := stamp.messageUuid, conversationId, senderId
    body := normalizeText payload.body
    mediaKey := storedMediaKey payload
    encryptedMessageKeys := payload.encryptedMessageKeys
    iv := normalizeEnvelopeField payload.iv
    algorithm := normalizeEnvelopeField payload.algorithm
    createdAt := stamp.now
    guestDataExpiresAt }

def insertDirectMessageAndPublish (recipientUserId : String) (doc : MessageDocument)
    (originSocketId : Option String) : ServerProgram MessageDocument := do
  insertMessage doc
  let api := messageDocumentToApi doc
  .perform (.publish ("message.user." ++ recipientUserId) api)
  .perform (.publish ("message.user." ++ doc.senderId) (senderEcho api originSocketId))
  pure doc

/-- The branch for `recipientUserId`: the thread is created when there is none. -/
def sendToRecipient (sender : UserDocument) (senderId recipientUserId : String)
    (payload : SendMessageRequest) (stamp : SendStamp)
    (originSocketId : Option String) : ServerProgram MessageDocument := do
  .require (recipientUserId ≠ senderId) ⟨"INVALID_REQUEST", 400, "Cannot message yourself"⟩
  let found ← findUserById recipientUserId
  let recipient ← .orFail found ⟨"NOT_FOUND", 404, "Recipient not found"⟩
  assertGuestGuestDirectMessagingAllowed sender recipient
  let guestExp ← resolveGuestGuestDataExpiresAt stamp senderId recipientUserId
  let conv ← findOrCreateDirectConversation senderId recipientUserId stamp.conversationUuid stamp.now guestExp
  insertDirectMessageAndPublish recipientUserId (newMessage conv.id senderId payload stamp guestExp)
    originSocketId

/-- The direct thread a send names. -/
def requireDirectThread (conversationId : String) : ServerProgram ConversationDocument := do
  match ← lookupConversationById conversationId with
  | none => .fail ⟨"NOT_FOUND", 404, "Conversation not found"⟩
  | some .group => .fail ⟨"FORBIDDEN", 403, "Group messaging is not supported yet"⟩
  | some (.direct conv) => pure conv

/-- The branch for `conversationId`: the recipient is the other participant. -/
def sendToConversation (sender : UserDocument) (senderId conversationId : String)
    (payload : SendMessageRequest) (stamp : SendStamp)
    (originSocketId : Option String) : ServerProgram MessageDocument := do
  let conv ← requireDirectThread conversationId
  .require (conv.participantIds.contains senderId)
    ⟨"FORBIDDEN", 403, "Not a participant in this conversation"⟩
  let recipientUserId ← .orFail (conv.participantIds.find? fun id => id ≠ senderId)
    ⟨"INTERNAL_ERROR", 500, "Invalid direct conversation participants"⟩
  let found ← findUserById recipientUserId
  let recipient ← .orFail found ⟨"NOT_FOUND", 404, "Recipient not found"⟩
  assertGuestGuestDirectMessagingAllowed sender recipient
  let guestExp ← resolveGuestGuestDataExpiresAt stamp senderId recipientUserId
  insertDirectMessageAndPublish recipientUserId (newMessage conv.id senderId payload stamp guestExp)
    originSocketId

/-- `String(x ?? '').trim()`. -/
def trimmedField (f : Nullable String) : String := EcmaText.trim (f.toOption.getD "")

def sendMessageForUser (senderId : String) (payload : SendMessageRequest) (stamp : SendStamp)
    (originSocketId : Option String) : ServerProgram MessageDocument := do
  let found ← findUserById senderId
  let sender ← .orFail found ⟨"NOT_FOUND", 404, "Sender not found"⟩
  let convRaw := trimmedField payload.conversationId
  let recipRaw := trimmedField payload.recipientUserId
  if recipRaw ≠ "" then
    sendToRecipient sender senderId recipRaw payload stamp originSocketId
  else if convRaw ≠ "" then
    sendToConversation sender senderId convRaw payload stamp originSocketId
  else .fail ⟨"INVALID_REQUEST", 400, "Invalid send request"⟩

end MessagingSystem.Source.Server

import MessagingSystem.Source.Server.SendMessage

/-!
# Receipts and the read cursor

`messageReceiptOps.ts` and `conversationReads/repo.ts`: the socket events
`message:delivered`, `message:read` and `conversation:read`. `at'` is the clock
when the event is taken up, `now` the clock of the cursor update.
-/
namespace MessagingSystem.Source.Server
open Foundation

/-- The parsed payload with the authenticated actor and the socket. -/
structure ReceiptRequest where
  actorUserId : String
  messageId : String
  conversationId : String
  originSocketId : Option String := none
  deriving DecidableEq

def messageNotFound : AppError := ⟨"NOT_FOUND", 404, "Message not found"⟩

def conversationMismatch : AppError :=
  ⟨"INVALID_REQUEST", 400, "Message does not belong to conversation"⟩

def requireDirectConversation (conversationId : String) : ServerProgram ConversationDocument :=
  requireDirectThread conversationId

def assertRecipientNotSender (actorUserId senderId : String) : ServerProgram Unit :=
  .require (actorUserId ≠ senderId)
    ⟨"FORBIDDEN", 403, "Sender cannot set delivery or read state on own message"⟩

def assertParticipant (actorUserId : String) (conv : ConversationDocument) : ServerProgram Unit :=
  .require (conv.participantIds.contains actorUserId)
    ⟨"FORBIDDEN", 403, "Not a participant in this conversation"⟩

/-- The checks of every receipt event, made before anything is written. -/
def receiptConversation (r : ReceiptRequest) : ServerProgram ConversationDocument := do
  let conv ← requireDirectConversation r.conversationId
  assertParticipant r.actorUserId conv
  let found ← findMessageById r.messageId
  let msg ← .orFail found messageNotFound
  .require (msg.conversationId = r.conversationId) conversationMismatch
  assertRecipientNotSender r.actorUserId msg.senderId
  pure conv

/-- A receipt time the user already has that is not older than the new one. -/
def hasReceiptSince (kind : ReceiptKind) (userId : String) (at' : Nat) (m : MessageDocument) : Bool :=
  match (m.receiptsByUserId.get userId).bind fun receipts => receipts.time kind with
  | some prev => at' ≤ prev
  | none => false

/-- Set one receipt time unless it is set to the same or a later time; the
reply says whether it changed. -/
def setReceiptTime (kind : ReceiptKind) (r : ReceiptRequest) (at' : Nat) : ServerProgram Bool := do
  let found ← .perform (.findMessage r.messageId)
  let msg ← .orFail found messageNotFound
  .require (msg.conversationId = r.conversationId) conversationMismatch
  if hasReceiptSince kind r.actorUserId at' msg then pure false
  else do
    .perform (.setReceipt kind r.messageId r.actorUserId at')
    pure true

def setReceiptDelivered (r : ReceiptRequest) (at' : Nat) : ServerProgram Bool :=
  setReceiptTime .delivered r at'

def setReceiptSeen (r : ReceiptRequest) (at' : Nat) : ServerProgram Bool := setReceiptTime .seen r at'

/-- The upsert of the read cursor; the reply says whether the row changed. -/
def upsertConversationRead (userId conversationId lastReadMessageId : String)
    (lastReadAt now : Nat) : ServerProgram Bool := do
  let changed ← .perform
    (.upsertConversationRead userId conversationId lastReadMessageId lastReadAt now)
  let doc ← .perform (.findConversationRead userId conversationId)
  .require doc.isSome internalServerError
  pure changed

def toFanoutPayload (r : ReceiptRequest) (at' : Nat) : Json :=
  .object [("userId", .string r.actorUserId), ("messageId", .string r.messageId),
    ("conversationId", .string r.conversationId), ("at", .string (EcmaDate.toISOString at'))]

/-- The broker message for one participant; only the actor's has `skipSocketId`. -/
def receiptBody (r : ReceiptRequest) (socketEvent : String) (data : Json) (pid : String) : Json :=
  .object ([("socketEvent", .string socketEvent), ("data", data)] ++
    match r.originSocketId with
    | some socketId => if pid = r.actorUserId then [("skipSocketId", .string socketId)] else []
    | none => [])

def publishReceiptToParticipants (r : ReceiptRequest) (socketEvent : String) (data : Json) :
    List String → ServerProgram Unit
  | [] => pure ()
  | pid :: rest => do
      .perform (.publish ("message.receipt." ++ pid) (receiptBody r socketEvent data pid))
      publishReceiptToParticipants r socketEvent data rest

/-- The fan-out of an event that changed something. -/
def publishIfChanged (changed : Bool) (r : ReceiptRequest) (socketEvent : String) (at' : Nat)
    (conv : ConversationDocument) : ServerProgram Unit :=
  if changed then
    publishReceiptToParticipants r socketEvent (toFanoutPayload r at') conv.participantIds
  else pure ()

def processMessageDelivered (r : ReceiptRequest) (at' : Nat) : ServerProgram Unit := do
  let conv ← receiptConversation r
  let changed ← setReceiptDelivered r at'
  publishIfChanged changed r "message:delivered" at' conv

def processMessageRead (r : ReceiptRequest) (at' now : Nat) : ServerProgram Unit := do
  let conv ← receiptConversation r
  let seen ← setReceiptSeen r at'
  let cursor ← upsertConversationRead r.actorUserId r.conversationId r.messageId at' now
  publishIfChanged (seen || cursor) r "message:read" at' conv

/-- The read cursor only, without `seenAt` on the message. -/
def processConversationRead (r : ReceiptRequest) (at' now : Nat) : ServerProgram Unit := do
  let conv ← receiptConversation r
  let cursor ← upsertConversationRead r.actorUserId r.conversationId r.messageId at' now
  publishIfChanged cursor r "conversation:read" at' conv

end MessagingSystem.Source.Server

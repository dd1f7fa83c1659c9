import MessagingSystem.Source.Client.MessagingSlice

/-!
# The primary send path and the plaintext write-through

`useSendMessage.sendMessage` up to the optimistic dispatch, with the request it
hands to the encrypted send, and the effect of `senderPlaintextPersistListener`.
-/
namespace MessagingSystem.Source.Client
open Foundation

structure ThreadComposerSendPayload where
  text : String
  mediaKey : Nullable String := .undefined
  mediaPreviewUrl : Nullable String := .undefined
  mediaRetrievableUrl : Nullable String := .undefined
  deriving DecidableEq

/-- The payload of the encrypted send for an existing thread. -/
structure HybridSendMessageRequest where
  conversationId : String
  body : Nullable String
  mediaKey : Nullable String
  mediaRetrievableUrl : Nullable String
  deriving DecidableEq

/-- `x?.trim() ?? null`. -/
def trimOrNull (f : Nullable String) : Nullable String :=
  match f with
  | .value s => .value (EcmaText.trim s)
  | _ => .null

/-- `text.length > 0 ? text : null`. -/
def textOrNull (text : String) : Nullable String := if text ≠ "" then .value text else .null

/-- `newOptimisticId`, for the UUID the platform drew. -/
def newOptimisticId (uuid : String) : String := "client:" ++ uuid

/-- The optimistic row `sendMessage` dispatches and the request it sends, or
the error it throws before either. `uuid` and `now` are the values of
`randomUUID()` and `new Date().toISOString()`. -/
def prepareSend (conversationId userId : Option String) (payload : ThreadComposerSendPayload)
    (uuid now : String) : Except String (StoredMessage × HybridSendMessageRequest) :=
  if !EcmaText.isNonBlank (conversationId.getD "") || (userId.getD "").isEmpty then
    .error "Not signed in"
  else
    let cid := EcmaText.trim (conversationId.getD "")
    let text := EcmaText.trim payload.text
    let mediaKey := trimOrNull payload.mediaKey
    let mediaPreviewUrl := trimOrNull payload.mediaPreviewUrl
    let mediaRetrievableUrl := trimOrNull payload.mediaRetrievableUrl
    if text.isEmpty && !isTruthy mediaKey then .error "Message body or attachment is required."
    else
      let optimisticMessage : StoredMessage :=
        { id := newOptimisticId uuid
          conversationId := cid
          senderId := userId.getD ""
          body := textOrNull text
          mediaKey := mediaKey
          createdAt := now
          mediaPreviewUrl := if isTruthy mediaPreviewUrl then mediaPreviewUrl else .undefined }
      let request : HybridSendMessageRequest :=
        { conversationId := cid
          body := if text ≠ "" then .value text else .undefined
          mediaKey := match mediaKey with | .value k => .value k | _ => .undefined
          mediaRetrievableUrl :=
            if isTruthy mediaRetrievableUrl then mediaRetrievableUrl else .undefined }
      .ok (optimisticMessage, request)

theorem isClientId_newOptimisticId (uuid : String) : isClientId (newOptimisticId uuid) = true := by
  simp [isClientId, newOptimisticId, EcmaText.startsWith]

/-- What a successful preparation says about the optimistic row. -/
theorem prepareSend_success {conversationId userId : Option String}
    {payload : ThreadComposerSendPayload} {uuid now : String} {row : StoredMessage}
    {request : HybridSendMessageRequest}
    (success : prepareSend conversationId userId payload uuid now = .ok (row, request)) :
    row.id = newOptimisticId uuid ∧
    row.conversationId = EcmaText.trim (conversationId.getD "") ∧
    row.body = textOrNull (EcmaText.trim payload.text) ∧
    request.conversationId = row.conversationId := by
  unfold prepareSend at success
  dsimp only at success
  split at success
  · cases success
  · split at success
    · cases success
    · cases success
      exact ⟨rfl, rfl, rfl, rfl⟩

/-- The row `senderPlaintextLocalStore.put` is called with after an action: the
plaintext the slice holds for the id of the acknowledged or received message. -/
def senderPlaintextToPersist (userId : Option String) (state : MessagingState)
    (action : MessagingAction) : Option (String × String × String) :=
  let userId := EcmaText.trim (userId.getD "")
  if userId = "" then none
  else
    let messageId : Option String :=
      match action with
      | .replaceOptimisticMessage _ _ message => some (EcmaText.trim message.id)
      | .appendIncomingMessageIfNew message _ => some (EcmaText.trim message.id)
      | .recordOwnSendPlaintext messageId _ => some (EcmaText.trim messageId)
      | _ => none
    match messageId with
    | none => none
    | some messageId =>
        if messageId = "" then none
        else
          match state.senderPlaintextByMessageId.get messageId with
          | none => none
          | some plain => if plain = "" then none else some (userId, messageId, plain)

/-- Only plaintexts the slice holds are persisted. -/
theorem senderPlaintextToPersist_held {userId : Option String} {state : MessagingState}
    {action : MessagingAction} {user messageId plain : String}
    (written : senderPlaintextToPersist userId state action = some (user, messageId, plain)) :
    state.senderPlaintextByMessageId.get messageId = some plain := by
  unfold senderPlaintextToPersist at written
  dsimp only at written
  split at written
  · cases written
  · split at written
    · cases written
    · split at written
      · cases written
      · split at written
        · cases written
        · rename_i held
          split at written
          · cases written
          · simp only [Option.some.injEq, Prod.mk.injEq] at written
            obtain ⟨-, rfl, rfl⟩ := written
            exact held

end MessagingSystem.Source.Client

import MessagingSystem.Source.Server.SendEffects
import MessagingSystem.Source.Server.SendSchema

/-!
# The content of a stored message

The schema counts a media key as content, and the hybrid rule does not store it. A
payload without a body that names device keys is accepted and stored empty.
-/
namespace MessagingSystem.Guarantees.StoredContent
open Foundation Foundation.Program Source.Server

/-- The document has a body or a media key. -/
def HasContent (doc : MessageDocument) : Prop := doc.body ≠ none ∨ doc.mediaKey ≠ none

/-- The payload has a body that is not blank, or it names no device keys. -/
def KeepsContent (payload : SendMessageRequest) : Prop :=
  hasText payload.body = true ∨ hasKeys payload = false

/-- The messages that a command may insert. -/
def Inserts (P : MessageDocument → Prop) : ∀ {β : Type}, ServerCommand β → Prop
  | _, .insertMessage doc => P doc
  | _, _ => True

section Inserted

variable {P : MessageDocument → Prop} {payload : SendMessageRequest} {stamp : SendStamp}
  {originSocketId : Option String}

theorem lookup_insertsOnly {α : Type} {p : ServerProgram α} (lookup : Forall ServerCommand.Lookup p) :
    Forall (Inserts P) p := by
  apply lookup.mono
  intro β c allowed
  cases c <;> trivial

theorem insertDirectMessageAndPublish_insertsOnly {doc : MessageDocument} (proper : P doc) (recipientUserId : String) :
    Forall (Inserts P) (insertDirectMessageAndPublish recipientUserId doc originSocketId) := by
  have inserted : Forall (Inserts P) (insertMessage doc) := by
    unfold insertMessage
    refine .bind (forall_perform.mpr proper) fun inserted => ?_
    exact .bind (forall_require _ _) fun _ => forall_perform.mpr trivial
  have published (routingKey : String) (body : Json) :
      Forall (Inserts P) (perform (.publish routingKey body) : ServerProgram Unit) := forall_perform.mpr trivial
  unfold insertDirectMessageAndPublish
  exact .bind inserted fun _ => .bind (published _ _) fun _ => .bind (published _ _) fun _ => forall_pure _

theorem sendToRecipient_insertsOnly {senderId recipientUserId : String} (sender : UserDocument)
    (trimmedSender : EcmaText.Trimmed senderId) (trimmedRecipient : EcmaText.Trimmed recipientUserId)
    (proper : ∀ conversationId guestExp, P (newMessage conversationId senderId payload stamp guestExp)) :
    Forall (Inserts P) (sendToRecipient sender senderId recipientUserId payload stamp originSocketId) := by
  unfold sendToRecipient
  refine .bind (forall_require _ _) fun _ => ?_
  refine .bind (lookup_insertsOnly (findUserById_lookup recipientUserId)) fun found => ?_
  refine .bind (forall_orFail _ _) fun recipient => .bind (forall_require _ _) fun _ => ?_
  refine .bind (lookup_insertsOnly (resolveGuestGuestDataExpiresAt_lookup stamp senderId recipientUserId))
    fun guestExp => ?_
  refine .bind (lookup_insertsOnly (findOrCreateDirectConversation_lookup trimmedSender trimmedRecipient
    stamp.conversationUuid stamp.now guestExp)) fun conv => ?_
  exact insertDirectMessageAndPublish_insertsOnly (proper conv.id guestExp) recipientUserId

theorem sendToConversation_insertsOnly {senderId : String} (sender : UserDocument) (conversationId : String)
    (proper : ∀ conversationId guestExp, P (newMessage conversationId senderId payload stamp guestExp)) :
    Forall (Inserts P) (sendToConversation sender senderId conversationId payload stamp originSocketId) := by
  unfold sendToConversation
  refine .bind (lookup_insertsOnly (requireDirectThread_lookup conversationId)) fun conv => ?_
  refine .bind (forall_require _ _) fun _ => .bind (forall_orFail _ _) fun recipientUserId => ?_
  refine .bind (lookup_insertsOnly (findUserById_lookup recipientUserId)) fun found => ?_
  refine .bind (forall_orFail _ _) fun recipient => .bind (forall_require _ _) fun _ => ?_
  refine .bind (lookup_insertsOnly (resolveGuestGuestDataExpiresAt_lookup stamp senderId recipientUserId))
    fun guestExp => ?_
  exact insertDirectMessageAndPublish_insertsOnly (proper conv.id guestExp) recipientUserId

/-- Whatever the store answers, a send inserts a message of its payload only. -/
theorem sendMessageForUser_insertsOnly (sender : UserId)
    (proper : ∀ conversationId guestExp, P (newMessage conversationId sender.val payload stamp guestExp)) :
    Forall (Inserts P) (sendMessageForUser sender.val payload stamp originSocketId) := by
  unfold sendMessageForUser
  refine .bind (lookup_insertsOnly (findUserById_lookup sender.val)) fun found => ?_
  refine .bind (forall_orFail _ _) fun senderDoc => ?_
  refine forall_ite ?_ (forall_ite ?_ (forall_fail _))
  · exact sendToRecipient_insertsOnly senderDoc sender.trimmed (trimmedField_trimmed _) proper
  · exact sendToConversation_insertsOnly senderDoc _ proper

end Inserted

section Content

variable {raw : Json} {payload : SendMessageRequest}

/-- The document of an accepted payload has content exactly when the rule of the envelope leaves some. -/
theorem newMessage_content_iff (checked : sendMessageIssues payload = []) (conversationId senderId : String)
    (stamp : SendStamp) (guestDataExpiresAt : Option Nat) :
    HasContent (newMessage conversationId senderId payload stamp guestDataExpiresAt) ↔ KeepsContent payload := by
  obtain ⟨-, counted, -⟩ := (sendMessageIssues_eq_nil payload).mp checked
  have body : normalizeText payload.body ≠ none ↔ hasText payload.body = true := by
    rw [← normalizeText_isSome, Option.isSome_iff_ne_none]
  have media : normalizeText payload.mediaKey ≠ none ↔ hasText payload.mediaKey = true := by
    rw [← normalizeText_isSome, Option.isSome_iff_ne_none]
  have stored : storedMediaKey payload ≠ none ↔ hasKeys payload = false ∧ hasText payload.mediaKey = true := by
    unfold storedMediaKey
    rw [hasHybridEnvelope_accepted checked]
    cases hasKeys payload with
    | true => simp
    | false => simpa using media
  unfold HasContent KeepsContent newMessage
  dsimp only
  rw [body, stored]
  constructor
  · rintro (text | ⟨plain, -⟩)
    · exact .inl text
    · exact .inr plain
  · rintro (text | plain)
    · exact .inl text
    · rcases counted with text | media
      · exact .inl text
      · exact .inr ⟨plain, media⟩

/-- Every message that a send of an accepted payload inserts has content exactly when the payload has a body
that is not blank or names no device keys; so has the document that a send alone on the store leaves there. -/
theorem stored_content_iff (accepted : sendMessageRequestSchema raw = some payload) (sender : UserId)
    (stamp : SendStamp) (originSocketId : Option String) :
    Forall (Inserts fun doc => HasContent doc ↔ KeepsContent payload)
        (sendMessageForUser sender.val payload stamp originSocketId) ∧
      ∀ db doc after,
        ServerProgram.exec (sendMessageForUser sender.val payload stamp originSocketId) db = (.ok doc, after) →
        doc ∈ after.messages ∧ (HasContent doc ↔ KeepsContent payload) := by
  have checked := sendMessageRequestSchema_checks accepted
  constructor
  · exact sendMessageForUser_insertsOnly sender fun conversationId guestExp =>
      newMessage_content_iff checked conversationId sender.val stamp guestExp
  · intro db doc after sent
    have stored : doc ∈ after.messages := by
      rw [sendMessageForUser_stores sent]
      exact List.mem_append_right _ (List.mem_singleton.mpr rfl)
    obtain ⟨recipient, conversationId, resolved, -, -, -, -, -, inserted⟩ :=
      sendMessageForUser_inserts sent
    obtain ⟨rfl, -⟩ := insertDirectMessageAndPublish_stores inserted
    exact ⟨stored, newMessage_content_iff checked _ _ _ _⟩

end Content

section Envelope

open UserId (alice)

def aliceAndBob : Database := { users := [⟨"alice", false, none⟩, ⟨"bob", false, none⟩] }

def sentStamp : SendStamp := ⟨"c", "m", 1, 86400⟩

/-- A media key and an envelope, and no body. -/
def mediaEnvelope : SendMessageRequest where
  recipientUserId := .value "bob"
  mediaKey := .value "users/alice/a.png"
  encryptedMessageKeys := some (Record.ofList [("device-1", "wrap")])
  iv := .value "iv"
  algorithm := .value "aes-256-gcm+p256-hybrid-v1"

def mediaEnvelopeJson : Json :=
  .object [("recipientUserId", .string "bob"), ("mediaKey", .string "users/alice/a.png"),
    ("encryptedMessageKeys", .object [("device-1", .string "wrap")]), ("iv", .string "iv"),
    ("algorithm", .string "aes-256-gcm+p256-hybrid-v1")]

theorem mediaEnvelope_accepted : sendMessageRequestSchema mediaEnvelopeJson = some mediaEnvelope := by rfl

/-- The same message with a body. -/
def captionedEnvelope : SendMessageRequest := { mediaEnvelope with body := .value "ciphertext" }

def captionedEnvelopeJson : Json :=
  .object [("recipientUserId", .string "bob"), ("body", .string "ciphertext"),
    ("mediaKey", .string "users/alice/a.png"), ("encryptedMessageKeys", .object [("device-1", .string "wrap")]),
    ("iv", .string "iv"), ("algorithm", .string "aes-256-gcm+p256-hybrid-v1")]

theorem captionedEnvelope_accepted : sendMessageRequestSchema captionedEnvelopeJson = some captionedEnvelope := by rfl

/-- What the store answers to a send of alice. -/
def sendAsAlice (payload : SendMessageRequest) : Except AppError MessageDocument × Database :=
  ServerProgram.exec (sendMessageForUser alice.val payload sentStamp none) aliceAndBob

theorem sendAsAlice_ok {payload : SendMessageRequest} (sent : (sendAsAlice payload).1.isOk = true) :
    ∃ doc after, sendAsAlice payload = (.ok doc, after) := by
  cases answer : sendAsAlice payload with
  | mk result after =>
    rw [answer] at sent
    cases result with
    | error e => cases sent
    | ok doc => exact ⟨doc, after, rfl⟩

/-- With a body the message keeps it. -/
theorem stored_content_iff_captioned :
    ∃ doc after, sendAsAlice captionedEnvelope = (.ok doc, after) ∧ doc ∈ after.messages ∧ HasContent doc := by
  obtain ⟨doc, after, answer⟩ := sendAsAlice_ok (show (sendAsAlice captionedEnvelope).1.isOk = true by decide)
  obtain ⟨stored, content⟩ :=
    (stored_content_iff captionedEnvelope_accepted alice sentStamp none).2 aliceAndBob doc after answer
  have kept : KeepsContent captionedEnvelope := by
    unfold KeepsContent
    decide
  exact ⟨doc, after, answer, stored, content.mpr kept⟩

/-- The schema accepts an envelope without a body, and the stored document has neither body nor media key. -/
theorem media_envelope_stored_empty :
    ¬ ∀ (raw : Json) (payload : SendMessageRequest) (sender : UserId) (stamp : SendStamp)
        (originSocketId : Option String) (db : Database) (doc : MessageDocument) (after : Database),
      sendMessageRequestSchema raw = some payload →
      ServerProgram.exec (sendMessageForUser sender.val payload stamp originSocketId) db = (.ok doc, after) →
      HasContent doc := by
  intro promised
  obtain ⟨doc, after, answer⟩ := sendAsAlice_ok (show (sendAsAlice mediaEnvelope).1.isOk = true by decide)
  have content := promised _ _ alice sentStamp none aliceAndBob doc after mediaEnvelope_accepted answer
  obtain ⟨recipient, conversationId, resolved, -, -, -, -, -, inserted⟩ := sendMessageForUser_inserts answer
  obtain ⟨rfl, -⟩ := insertDirectMessageAndPublish_stores inserted
  have kept := (newMessage_content_iff (sendMessageRequestSchema_checks mediaEnvelope_accepted) _ _ _ _).mp content
  have lost : ¬ KeepsContent mediaEnvelope := by
    unfold KeepsContent
    decide
  exact lost kept

end Envelope

end MessagingSystem.Guarantees.StoredContent

import MessagingSystem.Protocol.BrokerPublications
import MessagingSystem.Source.Client.SocketNotification

/-!
# Notifications are read back

What the service emits as a `notification` for a published message or call, the worker
of a tab takes apart into the same payload. Only a call whose ids are blank is dropped.
The notification of an encrypted message is the same whatever its envelope holds.
-/
namespace MessagingSystem.Guarantees.NotificationsReadBack
open Foundation Source.Server Source.Client Protocol

/-- A preview as a text. Texts are scalar values here: half of a surrogate pair, which is sent as an escape and
read back as it is, stands as U+FFFD on both sides. -/
def previewText (units : List Nat) : String := String.ofList (TextCoding.scalars (units.map UInt16.ofNat))

/-- The payload as Socket.IO writes it: what is `undefined` is left out. -/
def payloadMembers (n : MessageKindNotificationPayload) : List (String × Json) :=
  [("schemaVersion", .number "1"), ("kind", .string "message"), ("notificationId", .string n.notificationId),
    ("occurredAt", .string n.occurredAt), ("threadType", .string n.threadType)] ++
    Webrtc.presentMember "conversationId" n.conversationId ++ Webrtc.presentMember "messageId" n.messageId ++
    Webrtc.presentMember "senderUserId" n.senderUserId ++
    [("senderDisplayName", optionalString n.senderDisplayName)] ++
    Webrtc.presentMember "preview" (n.preview.map fun units => .string (previewText units)) ++
    (n.groupId.elim [] fun id => [("groupId", .string id), ("groupTitle", optionalString n.groupTitle)])

/-- The payload of a `notification` event. -/
def notificationJson : SocketEvent → Option Json
  | .notification payload => some (.object (payloadMembers payload))
  | .callIncoming payload => some payload
  | _ => none

/-- The notifications that a replica emits for a publication. -/
def notified (reads : ConsumerReads) (p : Publication) : List Json :=
  (deliverMessageToSocketIo reads p.routingKey p.body).filterMap fun e => notificationJson e.event

/-- What the worker of a tab posts for a notification. -/
def tabReads (n : Json) : Option Json := (parseNotificationWorkerPayload n).map fun parsed => .object parsed.content

/-- The notification of a message. -/
def messageNotification (reads : ConsumerReads) (doc : MessageDocument) : Json :=
  .object (payloadMembers (buildMessageKindNotificationPayload reads (messageMembers doc) "direct" none))

/-- The notification of a call with its ids trimmed. -/
def trimmedCall (c : PublishedCall) : Json :=
  Webrtc.buildCallIncomingKindNotificationPayload c.request (EcmaText.trim c.signal.callId) c.caller.val
    c.callerDisplayName c.signal.own (c.signal.conversationId.map EcmaText.trim)

/-- The ids of a call are not blank. -/
def CallReadable (c : PublishedCall) : Prop :=
  EcmaText.isNonBlank c.signal.callId = true ∧ ∀ id ∈ c.signal.conversationId, EcmaText.isNonBlank id = true

instance (c : PublishedCall) : Decidable (CallReadable c) := by
  unfold CallReadable
  infer_instance

/-- A notification goes out for a message that skips no socket and for a call. -/
def sent (reads : ConsumerReads) : Publication → List Json
  | .toRecipient _ m => [messageNotification reads m.doc]
  | .toSender m origin => if origin.isSome then [] else [messageNotification reads m.doc]
  | .receipt _ => []
  | .callIncoming c => [Publication.callPayload c]

/-- What the tab is to read of it. -/
def expected (reads : ConsumerReads) : Publication → List (Option Json)
  | .callIncoming c => [if CallReadable c then some (trimmedCall c) else none]
  | p => (sent reads p).map some

/-- An id and a time that are drawn: a UUID and an ISO time have no blanks around them. -/
def DrawnText (s : String) : Prop := EcmaText.Trimmed s ∧ s ≠ ""

/-- The id and the time that the notification of a publication takes. -/
def Drawn (reads : ConsumerReads) : Publication → Prop
  | .callIncoming c => DrawnText c.request.notificationId ∧ DrawnText c.request.occurredAt
  | _ => DrawnText reads.notificationId ∧ DrawnText reads.occurredAt

/-- A message with a part of the envelope of an encrypted message. -/
def Enveloped (doc : MessageDocument) : Prop :=
  (∃ keys name, doc.encryptedMessageKeys = some keys ∧ (keys.get name).isSome = true) ∨
    (∃ iv, doc.iv = .value iv ∧ EcmaText.isNonBlank iv = true) ∨
    ∃ algorithm, doc.algorithm = .value algorithm ∧ EcmaText.isNonBlank algorithm = true

/-- The notifications of encrypted messages tell apart nothing but the ids. -/
def HidesEnvelope (reads : ConsumerReads) : Prop :=
  ∀ doc doc' : MessageDocument, doc.id = doc'.id → doc.conversationId = doc'.conversationId →
    doc.senderId = doc'.senderId → Enveloped doc → Enveloped doc' →
    messageNotification reads doc = messageNotification reads doc'

section Sent

theorem notified_direct (reads : ConsumerReads) {body : Json} {doc : MessageDocument} {skip : Option String}
    (user : UserId) (parsed : parseBrokerPayload body = some ⟨messageMembers doc, skip⟩) :
    ((deliverMessageToSocketIo reads ("message.user." ++ user.val) body).filterMap
        fun e => notificationJson e.event) = if skip.isSome then [] else [messageNotification reads doc] := by
  rw [deliver_user]
  unfold deliverDirectMessage
  rw [parsed]
  cases skip with
  | none => rfl
  | some socketId => rfl

theorem notified_sent (reads : ConsumerReads) (p : Publication) : notified reads p = sent reads p := by
  cases p with
  | toRecipient recipient m => exact notified_direct reads recipient (parseBrokerPayload_recipient m.doc)
  | toSender m origin =>
    have echoed := notified_direct reads m.sender (parseBrokerPayload_echo m.doc origin)
    rw [Option.isSome_map] at echoed
    exact echoed
  | receipt r =>
    unfold notified
    rw [← delivery_joined, (Publication.receipt r).delivered.now, delivery_routed (Publication.receipt r).routed]
    rfl
  | callIncoming c =>
    unfold notified
    rw [← delivery_joined, (Publication.callIncoming c).delivered.now,
      delivery_routed (Publication.callIncoming c).routed]
    rfl

end Sent

section Reading

theorem nonBlankText_drawn {o : List (String × Json)} {name s : String}
    (held : Json.member o name = some (.string s)) (drawn : DrawnText s) : nonBlankText o name = some s :=
  nonBlankText_held held (isNonBlank_trimmed drawn)

theorem isSchemaVersionOne_number {o : List (String × Json)}
    (held : Json.member o "schemaVersion" = some (.number "1")) : isSchemaVersionOne o = true := by
  have one : EcmaNumber.isOne "1" = true := by decide
  unfold isSchemaVersionOne
  rw [held]
  exact one

/-- A name that is `null` or a text is copied. -/
theorem nullableCopy_optionalString {o : List (String × Json)} {name : String} {text : Option String}
    (held : Json.member o name = some (optionalString text)) :
    nullableCopy o name = some [(name, optionalString text)] := by
  unfold nullableCopy nullableText
  rw [held]
  cases text <;> rfl

theorem groupCopy_direct (o : List (String × Json)) : groupCopy o "direct" = some [] := rfl

/-- The members of the notification of a direct message. -/
def directMembers (reads : ConsumerReads) (doc : MessageDocument) : List (String × Json) :=
  [("schemaVersion", .number "1"), ("kind", .string "message"), ("notificationId", .string reads.notificationId),
    ("occurredAt", .string reads.occurredAt), ("threadType", .string "direct"),
    ("conversationId", .string doc.conversationId), ("messageId", .string doc.id),
    ("senderUserId", .string doc.senderId), ("senderDisplayName", optionalString reads.senderDisplayName)] ++
    Webrtc.presentMember "preview"
      ((buildMessagePreview (messageMembers doc)).map fun units => .string (previewText units))

theorem messageNotification_members (reads : ConsumerReads) (doc : MessageDocument) :
    messageNotification reads doc = .object (directMembers reads doc) := by
  have conversation : Json.member (messageMembers doc) "conversationId" = some (.string doc.conversationId) := by
    simp [messageMembers]
  have sender : Json.member (messageMembers doc) "senderId" = some (.string doc.senderId) := by
    simp [messageMembers]
  have id := member_messageMembers_id doc
  unfold messageNotification payloadMembers buildMessageKindNotificationPayload directMembers
  rw [conversation, sender, id]
  simp [Webrtc.presentMember]

/-- The worker reads the notification of a message as it was sent. -/
theorem tabReads_message {reads : ConsumerReads} (drawn : DrawnText reads.notificationId ∧ DrawnText reads.occurredAt)
    (m : PublishedMessage) : tabReads (messageNotification reads m.doc) = some (messageNotification reads m.doc) := by
  have trims {s : String} (text : DrawnText s) : EcmaText.trim s = s := text.1
  have conversationDrawn : DrawnText m.doc.conversationId := m.clean.conversationId
  have messageDrawn : DrawnText m.doc.id := m.clean.id
  have senderDrawn : DrawnText m.doc.senderId := m.clean.senderId
  rw [messageNotification_members]
  generalize members : directMembers reads m.doc = o
  have id := nonBlankText_drawn (show Json.member o "notificationId" = some (.string reads.notificationId) by
    simp [← members, directMembers]) drawn.1
  have time := nonBlankText_drawn (show Json.member o "occurredAt" = some (.string reads.occurredAt) by
    simp [← members, directMembers]) drawn.2
  have conversation := nonBlankText_drawn (show Json.member o "conversationId" =
    some (.string m.doc.conversationId) by simp [← members, directMembers]) conversationDrawn
  have message := nonBlankText_drawn (show Json.member o "messageId" = some (.string m.doc.id) by
    simp [← members, directMembers]) messageDrawn
  have sender := nonBlankText_drawn (show Json.member o "senderUserId" = some (.string m.doc.senderId) by
    simp [← members, directMembers]) senderDrawn
  have name := nullableCopy_optionalString (show Json.member o "senderDisplayName" =
    some (optionalString reads.senderDisplayName) by simp [← members, directMembers])
  have version := isSchemaVersionOne_number (o := o) (by simp [← members, directMembers])
  have kind : Json.member o "kind" = some (.string "message") := by simp [← members, directMembers]
  have thread : scopeText o "threadType" = some "direct" := by
    simp [scopeText, ← members, directMembers, Json.asString]
  have preview : optionalCopy o "preview" = some (Webrtc.presentMember "preview"
      ((buildMessagePreview (messageMembers m.doc)).map fun units => .string (previewText units))) := by
    unfold optionalCopy
    cases shown : buildMessagePreview (messageMembers m.doc) <;>
      simp [← members, directMembers, shown, Webrtc.presentMember]
  have parsed : parseNotificationWorkerPayload (.object o) = some ⟨reads.notificationId, o⟩ := by
    simp only [parseNotificationWorkerPayload, Json.asObject, Option.bind_eq_bind, Option.bind_some, version, if_true,
      kind, parseMessageKind, id, time, thread, conversation, message, sender, name, preview, groupCopy_direct,
      trims drawn.1, trims drawn.2, trims conversationDrawn, trims messageDrawn, trims senderDrawn]
    simp [← members, directMembers]
  unfold tabReads
  rw [parsed]
  rfl

/-- The members of the notification of a call. -/
def callMembers (c : PublishedCall) (callId : String) (conversationId : Option String) : List (String × Json) :=
  [("schemaVersion", .number "1"), ("kind", .string "call_incoming"),
    ("notificationId", .string c.request.notificationId), ("occurredAt", .string c.request.occurredAt),
    ("media", .string (Webrtc.inferMediaFromWebRtcOfferSdp c.signal.own)), ("callScope", .string "direct"),
    ("callId", .string callId), ("callerUserId", .string c.caller.val),
    ("callerDisplayName", optionalString c.callerDisplayName)] ++
    Webrtc.presentMember "conversationId" (conversationId.map Json.string)

theorem nonBlankText_blank {o : List (String × Json)} {name s : String}
    (held : Json.member o name = some (.string s)) (blank : EcmaText.isNonBlank s = false) :
    nonBlankText o name = none := by
  unfold nonBlankText
  rw [held, Json.asString, Option.filter_some, blank]
  rfl

/-- A thread id that is not blank is trimmed, and a blank one refused. -/
theorem optionalNonBlank_present {o : List (String × Json)} {conversationId : Option String}
    (held : Json.member o "conversationId" = conversationId.map Json.string) :
    optionalNonBlank o "conversationId" =
      if ∀ id ∈ conversationId, EcmaText.isNonBlank id = true then
        some (Webrtc.presentMember "conversationId" ((conversationId.map EcmaText.trim).map Json.string))
      else none := by
  unfold optionalNonBlank
  cases conversationId with
  | none =>
    rw [held]
    simp [Webrtc.presentMember]
  | some id =>
    rw [held]
    cases solid : EcmaText.isNonBlank id with
    | true =>
      have read := nonBlankText_held held solid
      simp [read, solid, Webrtc.presentMember]
    | false =>
      have read := nonBlankText_blank held solid
      simp [read, solid]

/-- The worker reads the notification of a call with its ids trimmed, unless one of them is blank. -/
theorem tabReads_call {c : PublishedCall} (drawn : DrawnText c.request.notificationId ∧ DrawnText c.request.occurredAt) :
    tabReads (Publication.callPayload c) = if CallReadable c then some (trimmedCall c) else none := by
  have trims {s : String} (text : DrawnText s) : EcmaText.trim s = s := text.1
  have callerDrawn : DrawnText c.caller.val := ⟨c.caller.trimmed, c.caller.nonempty⟩
  change tabReads (.object (callMembers c c.signal.callId c.signal.conversationId)) =
    if CallReadable c then some (.object (callMembers c (EcmaText.trim c.signal.callId)
      (c.signal.conversationId.map EcmaText.trim))) else none
  generalize members : callMembers c c.signal.callId c.signal.conversationId = o
  have id := nonBlankText_drawn (show Json.member o "notificationId" = some (.string c.request.notificationId) by
    simp [← members, callMembers]) drawn.1
  have time := nonBlankText_drawn (show Json.member o "occurredAt" = some (.string c.request.occurredAt) by
    simp [← members, callMembers]) drawn.2
  have caller := nonBlankText_drawn (show Json.member o "callerUserId" = some (.string c.caller.val) by
    simp [← members, callMembers]) callerDrawn
  have called : Json.member o "callId" = some (.string c.signal.callId) := by simp [← members, callMembers]
  have version := isSchemaVersionOne_number (o := o) (by simp [← members, callMembers])
  have kind : Json.member o "kind" = some (.string "call_incoming") := by simp [← members, callMembers]
  have scope : scopeText o "callScope" = some "direct" := by
    simp [scopeText, ← members, callMembers, Json.asString]
  have media : (Json.asString (Json.member o "media")).filter (fun s => s = "audio" || s = "video") =
      some (Webrtc.inferMediaFromWebRtcOfferSdp c.signal.own) := by
    unfold Webrtc.inferMediaFromWebRtcOfferSdp
    split <;> simp [← members, callMembers, Json.asString, Webrtc.inferMediaFromWebRtcOfferSdp, *]
  have name : callerDisplayName o = some (optionalString c.callerDisplayName) := by
    unfold callerDisplayName
    cases shown : c.callerDisplayName <;> simp [← members, callMembers, shown, optionalString]
  have thread := optionalNonBlank_present (show Json.member o "conversationId" =
    c.signal.conversationId.map Json.string by
      cases held : c.signal.conversationId <;> simp [← members, callMembers, held, Webrtc.presentMember])
  have parsed : parseNotificationWorkerPayload (.object o) =
      if CallReadable c then some ⟨c.request.notificationId, callMembers c (EcmaText.trim c.signal.callId)
        (c.signal.conversationId.map EcmaText.trim)⟩ else none := by
    cases solid : EcmaText.isNonBlank c.signal.callId with
    | false =>
      have unreadable : ¬CallReadable c := fun readable => by simp [readable.1] at solid
      rw [if_neg unreadable]
      simp [parseNotificationWorkerPayload, Json.asObject, version, kind, parseCallIncomingKind, id, time, media,
        scope, nonBlankText_blank called solid]
    | true =>
      have readable : CallReadable c ↔ ∀ id ∈ c.signal.conversationId, EcmaText.isNonBlank id = true :=
        ⟨fun both => both.2, fun other => ⟨solid, other⟩⟩
      simp only [readable, parseNotificationWorkerPayload, Json.asObject, Option.bind_eq_bind, Option.bind_some,
        version, if_true, kind, parseCallIncomingKind, id, time, media, scope, nonBlankText_held called solid, caller,
        name, groupCopy_direct, thread, trims drawn.1, trims drawn.2, trims callerDrawn]
      split <;> simp [callMembers]
  unfold tabReads
  rw [parsed]
  split <;> rfl

end Reading

section Envelopes

theorem trimmedMember_nonBlank {message : MessageApiPayload} {name text : String}
    (held : Json.member message name = some (.string text)) (solid : EcmaText.isNonBlank text = true) :
    trimmedMember message name ≠ "" := by
  unfold trimmedMember
  rw [held]
  exact EcmaText.isNonBlank_iff.mp solid

/-- The service takes an enveloped message for encrypted. -/
theorem messageLooksOpaqueE2ee_of_enveloped {doc : MessageDocument} (enveloped : Enveloped doc) :
    messageLooksOpaqueE2ee (messageMembers doc) = true := by
  obtain ⟨-, -, -, -, -, -, ivMember, algorithmMember, keysMember⟩ := member_members (apiMessage doc)
  rw [apiMessage_members] at ivMember algorithmMember keysMember
  unfold messageLooksOpaqueE2ee
  simp only [Bool.or_eq_true, decide_eq_true_eq]
  rcases enveloped with ⟨keys, name, held, wrapped⟩ | ⟨iv, held, solid⟩ | ⟨algorithm, held, solid⟩
  · left; left; left
    have listed : name ∈ keys.names := Record.mem_names.mpr wrapped
    have object : Json.member (messageMembers doc) "encryptedMessageKeys" =
        some (.object (keys.names.map fun name => (name, .string ((keys.get name).getD "")))) := by
      rw [keysMember, apiMessage, held]
      exact Json.member_cons_self ..
    have nonempty : keys.names ≠ [] := List.ne_nil_of_mem listed
    rw [object]
    simpa [Json.asObject] using nonempty
  · left; left; right
    exact trimmedMember_nonBlank (by rw [ivMember, apiMessage, held]; rfl) solid
  · left; right
    exact trimmedMember_nonBlank (by rw [algorithmMember, apiMessage, held]; rfl) solid

theorem preview_of_enveloped {doc : MessageDocument} (enveloped : Enveloped doc) :
    buildMessagePreview (messageMembers doc) = some (EcmaText.codeUnits "Encrypted message") := by
  unfold buildMessagePreview
  rw [if_pos (messageLooksOpaqueE2ee_of_enveloped enveloped)]

theorem hidesEnvelope (reads : ConsumerReads) : HidesEnvelope reads := by
  intro doc doc' id conversation sender enveloped enveloped'
  rw [messageNotification_members, messageNotification_members, directMembers, directMembers,
    preview_of_enveloped enveloped, preview_of_enveloped enveloped', id, conversation, sender]

end Envelopes

/-- Every notification of a publication goes to a tab that reads the payload as it was sent, with the ids of a
call trimmed, or drops a call with a blank id; and that of an encrypted message hides the envelope. -/
theorem notifications_read_back (reads : ConsumerReads) (p : Publication) (drawn : Drawn reads p) :
    notified reads p = sent reads p ∧ (notified reads p).map tabReads = expected reads p ∧ HidesEnvelope reads := by
  refine ⟨notified_sent reads p, ?_, hidesEnvelope reads⟩
  rw [notified_sent]
  cases p with
  | toRecipient recipient m => simp [sent, expected, tabReads_message drawn m]
  | toSender m origin => cases origin <;> simp [sent, expected, tabReads_message drawn m]
  | receipt r => rfl
  | callIncoming c => simp [sent, expected, tabReads_call drawn]

section Note

/-- An encrypted message, as the service has stored it. -/
def note : PublishedMessage where
  doc :=
    { id := "m1", conversationId := "c1", senderId := "alice", body := some "3q2+7w==", mediaKey := none
      encryptedMessageKeys := some (Record.ofList [("phone", "wrapped")]), iv := .value "q83vASNFZ4mrze8B"
      algorithm := .value "aes-256-gcm+p256-hybrid-v1", createdAt := 0 }
  clean :=
    { id := by decide
      conversationId := by decide
      senderId := by decide
      createdAt := toISOString_nonBlank 0
      keys := by
        intro keys held
        cases held
        decide }

open UserId (bob)

def noteReads : ConsumerReads where
  sender := some { id := "alice", isGuest := false, displayName := some "Alice" }
  notificationId := "n1"
  occurredAt := "2026-04-01T12:00:00.000Z"

/-- The tab of the recipient reads what was sent for the message, and no word of its body. -/
theorem notifications_read_back_note :
    (notified noteReads (.toRecipient bob note)).map tabReads = [some (messageNotification noteReads note.doc)] ∧
      buildMessagePreview (messageMembers note.doc) = some (EcmaText.codeUnits "Encrypted message") := by
  have read := notifications_read_back noteReads (.toRecipient bob note)
    ⟨⟨by decide, by decide⟩, by decide, by decide⟩
  exact ⟨read.2.1, preview_of_enveloped (.inr (.inl ⟨_, rfl, by decide⟩))⟩

end Note

end MessagingSystem.Guarantees.NotificationsReadBack

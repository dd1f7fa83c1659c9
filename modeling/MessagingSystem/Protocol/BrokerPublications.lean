import MessagingSystem.Protocol.MessageFanOut
import MessagingSystem.Protocol.ReceiptFanOut
import MessagingSystem.Source.Client.SocketMessageNew
import MessagingSystem.Source.Server.BrokerQueue
import MessagingSystem.Source.Server.SendSchema
import MessagingSystem.Source.Server.WebrtcSignaling

/-!
# What the service publishes

A message to its recipient and to its sender, a receipt to each participant and an
incoming call to the callee, each with the emission that its delivery is to make.
-/
namespace MessagingSystem.Protocol
open Foundation Source.Server Source.Client

section Messages

/-- A member that is `null` where the document has none. -/
def nullableOf : Option String → Nullable String
  | some s => .value s
  | none => .null

/-- The `Message` of a document, as an acknowledgement carries it. -/
def apiMessage (doc : MessageDocument) : Message where
  id := doc.id
  conversationId := doc.conversationId
  senderId := doc.senderId
  body := nullableOf doc.body
  mediaKey := nullableOf doc.mediaKey
  encryptedMessageKeys := doc.encryptedMessageKeys.elim .undefined .value
  iv := doc.iv
  algorithm := doc.algorithm
  createdAt := EcmaDate.toISOString doc.createdAt

theorem nullableMember_eq (name : String) (f : Nullable String) :
    nullableMember name f = optionalMember name f := by
  cases f <;> rfl

theorem apiMessage_members (doc : MessageDocument) : (apiMessage doc).members = messageMembers doc := by
  have field (name : String) (text : Option String) :
      nullableMember name (nullableOf text) = [(name, optionalString text)] := by
    cases text <;> rfl
  have keys : keysMember (doc.encryptedMessageKeys.elim .undefined .value) =
      keyMembers doc.encryptedMessageKeys := by
    cases doc.encryptedMessageKeys <;> rfl
  unfold apiMessage Message.members messageMembers
  simp only [field, keys, nullableMember_eq, List.cons_append, List.nil_append, List.append_assoc]

/-- A stored message with the ids that the service draws, its keys an object of a schema. -/
structure PublishedMessage where
  doc : MessageDocument
  clean : (apiMessage doc).Clean

/-- The document of an accepted send is such a message. -/
theorem newMessage_clean {raw : Json} {payload : SendMessageRequest} {stamp : SendStamp}
    (accepted : sendMessageRequestSchema raw = some payload)
    (drawn : EcmaText.Trimmed stamp.messageUuid ∧ stamp.messageUuid ≠ "") (sender : UserId)
    {conversationId : String} (thread : EcmaText.Trimmed conversationId ∧ conversationId ≠ "")
    (guestDataExpiresAt : Option Nat) :
    (apiMessage (newMessage conversationId sender.val payload stamp guestDataExpiresAt)).Clean where
  id := drawn
  conversationId := thread
  senderId := ⟨sender.trimmed, sender.nonempty⟩
  createdAt := toISOString_nonBlank stamp.now
  keys := by
    intro keys held
    apply sendMessageRequestSchema_keys accepted
    unfold apiMessage newMessage at held
    cases given : payload.encryptedMessageKeys with
    | none =>
      rw [given] at held
      cases held
    | some names =>
      rw [given] at held
      cases held
      rfl

def PublishedMessage.sender (m : PublishedMessage) : UserId :=
  ⟨m.doc.senderId, m.clean.senderId.1, m.clean.senderId.2⟩

end Messages

/-- A receipt event for one participant. -/
structure PublishedReceipt where
  request : ReceiptRequest
  origin : request.originSocketId ≠ some ""
  socketEvent : String
  named : isReceiptSocketEventName socketEvent = true
  at' : Nat
  participant : UserId

/-- An accepted offer for its callee, with what the handler draws. -/
structure PublishedCall where
  request : Webrtc.SignalRequest
  drawn : request.notificationId ≠ "" ∧ request.occurredAt ≠ ""
  signal : Webrtc.WebrtcSignal String
  accepted : Webrtc.webrtcOfferSchema request.raw = some signal
  caller : UserId
  callerDisplayName : Option String
  callee : UserId
  addressed : callee.val = signal.toUserId

/-- One `publishMessage` of the service. -/
inductive Publication where
  | toRecipient (recipient : UserId) (m : PublishedMessage)
  | toSender (m : PublishedMessage) (origin : Option SocketId)
  | receipt (r : PublishedReceipt)
  | callIncoming (c : PublishedCall)

namespace Publication

def target : Publication → UserId
  | toRecipient recipient _ => recipient
  | toSender m _ => m.sender
  | receipt r => r.participant
  | callIncoming c => c.callee

def routingKey : Publication → String
  | toRecipient recipient _ => "message.user." ++ recipient.val
  | toSender m _ => "message.user." ++ m.doc.senderId
  | receipt r => "message.receipt." ++ r.participant.val
  | callIncoming c => CALL_INCOMING_ROUTING_PREFIX ++ c.signal.toUserId

def callPayload (c : PublishedCall) : Json :=
  Webrtc.buildCallIncomingKindNotificationPayload c.request c.signal.callId c.caller.val c.callerDisplayName
    c.signal.own c.signal.conversationId

def body : Publication → Json
  | toRecipient _ m => messageDocumentToApi m.doc
  | toSender m origin => senderEcho (messageDocumentToApi m.doc) (origin.map SocketId.val)
  | receipt r => receiptBody r.request r.socketEvent (toFanoutPayload r.request r.at') r.participant.val
  | callIncoming c => callPayload c

/-- The socket that is not to receive the event. -/
def skipSocketId : Publication → Option String
  | toSender _ origin => origin.map SocketId.val
  | receipt r => if r.participant.val = r.request.actorUserId then r.request.originSocketId else none
  | _ => none

/-- The data of a receipt in the order in which the consumer writes its members. -/
def receiptData (r : PublishedReceipt) : List (String × Json) :=
  [("messageId", .string r.request.messageId), ("conversationId", .string r.request.conversationId),
    ("userId", .string r.request.actorUserId), ("at", .string (EcmaDate.toISOString r.at'))]

/-- The event with the published payload. -/
def event : Publication → SocketEvent
  | toRecipient _ m => .messageNew (messageMembers m.doc)
  | toSender m _ => .messageNew (messageMembers m.doc)
  | receipt r => .receipt r.socketEvent (.object (receiptData r))
  | callIncoming c => .callIncoming (callPayload c)

def emission (p : Publication) : Emission := ⟨"user:" ++ p.target.val, p.skipSocketId, p.event⟩

end Publication

/-- A send publishes to its recipient and to its sender. -/
theorem directMessages_publications (recipient : UserId) (m : PublishedMessage) (origin : Option SocketId) :
    directMessages recipient.val m.doc (origin.map SocketId.val) =
      [Publication.toRecipient recipient m, Publication.toSender m origin].map
        fun p => (p.routingKey, p.body) := rfl

/-- A receipt event is published to each participant. -/
theorem receiptMessage_publication (r : PublishedReceipt) :
    receiptMessage r.request r.socketEvent r.at' r.participant.val =
      ((Publication.receipt r).routingKey, (Publication.receipt r).body) := rfl

section Routing

/-- The families of routing keys. -/
inductive RoutingFamily where
  | receipt | callIncoming | group | direct
  deriving DecidableEq

/-- The id that the parser of a family reads. -/
def RoutingFamily.target : RoutingFamily → String → Option String
  | receipt => parseReceiptRoutingKey
  | callIncoming => parseCallIncomingRoutingKey
  | group => parseGroupRoutingKey
  | direct => parseDirectUserRoutingKey

def Publication.family : Publication → RoutingFamily
  | toRecipient .. => .direct
  | toSender .. => .direct
  | receipt _ => .receipt
  | callIncoming _ => .callIncoming

theorem direct_routed (user : UserId) (family : RoutingFamily) :
    family.target ("message.user." ++ user.val) = if family = .direct then some user.val else none := by
  obtain ⟨receipt, call, group, direct⟩ := routingKey_user user
  cases family with
  | receipt => exact receipt
  | callIncoming => exact call
  | group => exact group
  | direct => exact direct

theorem receipt_routed (user : UserId) (family : RoutingFamily) :
    family.target ("message.receipt." ++ user.val) = if family = .receipt then some user.val else none := by
  cases family with
  | receipt => exact routingKey_receipt user
  | callIncoming =>
    simp [RoutingFamily.target, parseCallIncomingRoutingKey, routingTarget, EcmaText.startsWith,
      CALL_INCOMING_ROUTING_PREFIX]
  | group =>
    simp [RoutingFamily.target, parseGroupRoutingKey, routingTarget, EcmaText.startsWith,
      MESSAGE_ROUTING_PREFIX]
  | direct =>
    simp [RoutingFamily.target, parseDirectUserRoutingKey, routingTarget, EcmaText.startsWith,
      MESSAGE_ROUTING_PREFIX]

theorem callIncoming_routed (user : UserId) (family : RoutingFamily) :
    family.target (CALL_INCOMING_ROUTING_PREFIX ++ user.val) =
      if family = .callIncoming then some user.val else none := by
  cases family with
  | receipt =>
    simp [RoutingFamily.target, parseReceiptRoutingKey, routingTarget, EcmaText.startsWith,
      MESSAGE_ROUTING_PREFIX, CALL_INCOMING_ROUTING_PREFIX]
  | callIncoming =>
    simp [RoutingFamily.target, parseCallIncomingRoutingKey, routingTarget, user.trim_val, user.nonempty]
  | group =>
    simp [RoutingFamily.target, parseGroupRoutingKey, routingTarget, EcmaText.startsWith,
      MESSAGE_ROUTING_PREFIX, CALL_INCOMING_ROUTING_PREFIX]
  | direct =>
    simp [RoutingFamily.target, parseDirectUserRoutingKey, routingTarget, EcmaText.startsWith,
      MESSAGE_ROUTING_PREFIX, CALL_INCOMING_ROUTING_PREFIX]

/-- The routing key of a publication belongs to its family alone. -/
theorem Publication.routed (p : Publication) (family : RoutingFamily) :
    family.target p.routingKey = if family = p.family then some p.target.val else none := by
  cases p with
  | toRecipient recipient m => exact direct_routed recipient family
  | toSender m origin => exact direct_routed m.sender family
  | receipt r => exact receipt_routed r.participant family
  | callIncoming c =>
    have key : (Publication.callIncoming c).routingKey = CALL_INCOMING_ROUTING_PREFIX ++ c.callee.val := by
      rw [c.addressed]
      rfl
    rw [key]
    exact callIncoming_routed c.callee family

/-- The family of a key decides what is delivered. -/
theorem delivery_routed {routingKey : String} {family : RoutingFamily} {id : String}
    (routed : ∀ other : RoutingFamily, other.target routingKey = if other = family then some id else none)
    (body : Json) :
    delivery routingKey body =
      match family with
      | .receipt => { now := deliverReceiptToSocketIo id body }
      | .callIncoming => { now := deliverCallIncomingNotificationToSocketIo id body }
      | .group => groupDelivery id body
      | .direct => directDelivery id body := by
  have receipt : parseReceiptRoutingKey routingKey = _ := routed .receipt
  have call : parseCallIncomingRoutingKey routingKey = _ := routed .callIncoming
  have group : parseGroupRoutingKey routingKey = _ := routed .group
  have direct : parseDirectUserRoutingKey routingKey = _ := routed .direct
  unfold delivery
  rw [receipt, call, group, direct]
  cases family <;> rfl

end Routing

section Bodies

theorem wellFormed_optionalString (text : Option String) : (optionalString text).wellFormed = true := by
  cases text <;> rfl

theorem wellFormed_message (doc : MessageDocument) : (messageDocumentToApi doc).wellFormed = true := by
  have keys (record : Record String) : Json.membersWellFormed (record.names.map fun name =>
      (name, .string ((record.get name).getD ""))) = true :=
    Json.membersWellFormed_strings _ _
  have distinct (record : Record String) : (record.names.map (Prod.fst ∘ fun name =>
      (name, Json.string ((record.get name).getD "")))).Nodup := by
    rw [show (Prod.fst ∘ fun name => (name, Json.string ((record.get name).getD ""))) = id from rfl, List.map_id]
    exact Finset.sort_nodup _ _
  unfold messageDocumentToApi messageMembers
  cases doc.encryptedMessageKeys <;> cases doc.iv <;> cases doc.algorithm <;>
    simp [keyMembers, optionalMember, Json.wellFormed, Json.membersWellFormed, wellFormed_optionalString, keys,
      distinct]

theorem Publication.wellFormed (p : Publication) : p.body.wellFormed = true := by
  cases p with
  | toRecipient recipient m => exact wellFormed_message m.doc
  | toSender m origin =>
    have message := wellFormed_message m.doc
    cases origin <;> simp [body, senderEcho, Json.wellFormed, Json.membersWellFormed, message]
  | receipt r =>
    unfold body receiptBody toFanoutPayload
    cases origin : r.request.originSocketId with
    | none => simp [origin, Json.wellFormed, Json.membersWellFormed]
    | some socketId =>
      by_cases actor : r.participant.val = r.request.actorUserId <;>
        simp [origin, actor, Json.wellFormed, Json.membersWellFormed]
  | callIncoming c =>
    have digit : Json.isWordChar '1' = true := by decide
    have version : (EcmaNumber.readLiteral ['1']).isSome = true := by decide
    unfold body callPayload Webrtc.buildCallIncomingKindNotificationPayload Webrtc.presentMember
    cases conversation : c.signal.conversationId <;>
      simp [conversation, Json.wellFormed, Json.membersWellFormed, wellFormed_optionalString, digit, version]

/-- The schema of an offer lets no empty id through. -/
theorem PublishedCall.ids (c : PublishedCall) :
    c.signal.callId ≠ "" ∧ ∀ id, c.signal.conversationId = some id → id ≠ "" := by
  have solid {min max : Nat} {value : Option Json} {s : String} (positive : 0 < min)
      (bounded : Webrtc.boundedString min max value = some s) : s ≠ "" := by
    intro empty
    have bounds := (Option.filter_eq_some_iff.mp bounded).2
    rw [empty] at bounds
    simp [EcmaText.codeUnitLength] at bounds
    omega
  have accepted := c.accepted
  simp only [Webrtc.webrtcOfferSchema, Webrtc.signalSchema, Option.bind_eq_bind,
    Option.bind_eq_some_iff] at accepted
  obtain ⟨o, -, toUserId, -, callId, bounded, own, -, conversationId, optional, signal⟩ := accepted
  rw [← Option.some.inj signal]
  refine ⟨solid (by decide) bounded, ?_⟩
  intro id held
  obtain rfl : conversationId = some id := held
  unfold Webrtc.optionalConversationId Webrtc.optional at optional
  split at optional
  · cases optional
  · obtain ⟨text, bounded, same⟩ := Option.map_eq_some_iff.mp optional
    cases same
    exact solid (by decide) bounded

/-- The schema of the consumer gives the payload of a call back. -/
theorem parseCall_payload (c : PublishedCall) :
    parseCallIncomingNotificationBrokerBody (Publication.callPayload c) = some (Publication.callPayload c) := by
  obtain ⟨callId, conversation⟩ := c.ids
  have media : Webrtc.inferMediaFromWebRtcOfferSdp c.signal.own = "audio" ∨
      Webrtc.inferMediaFromWebRtcOfferSdp c.signal.own = "video" := by
    unfold Webrtc.inferMediaFromWebRtcOfferSdp
    split
    · exact Or.inr rfl
    · exact Or.inl rfl
  have text {s : String} (solid : s ≠ "") : nonemptyString (some (.string s)) = some s := by
    unfold nonemptyString
    rw [Json.asString, Option.filter_some, if_pos (by simpa using solid)]
  have kind {m : String} (either : m = "audio" ∨ m = "video") :
      Option.filter (fun m => decide (m = "audio") || decide (m = "video")) (some m) = some m := by
    rw [Option.filter_some, if_pos (by simpa using either)]
  have named : Webrtc.inferMediaFromWebRtcOfferSdp c.signal.own ≠ "" := by
    rcases media with audio | video
    · rw [audio]
      decide
    · rw [video]
      decide
  unfold Publication.callPayload Webrtc.buildCallIncomingKindNotificationPayload Webrtc.presentMember
  cases thread : c.signal.conversationId with
  | none =>
    cases c.callerDisplayName <;>
      simp [parseCallIncomingNotificationBrokerBody, Json.asObject, text callId, text c.drawn.1, text c.drawn.2,
        text c.caller.nonempty, text named, kind media, Json.asString, optionalString]
  | some id =>
    cases c.callerDisplayName <;>
      simp [parseCallIncomingNotificationBrokerBody, Json.asObject, text callId, text c.drawn.1, text c.drawn.2,
        text c.caller.nonempty, text named, kind media, Json.asString, optionalString,
        text (conversation id thread)]

/-- The consumer reads the data of a receipt and the socket to skip. -/
theorem parseReceipt_body (r : PublishedReceipt) :
    parseReceiptBrokerPayload (Publication.receipt r).body =
      some ⟨r.socketEvent, .object (Publication.receiptData r), (Publication.receipt r).skipSocketId⟩ := by
  have kept : Option.filter isReceiptSocketEventName (some r.socketEvent) = some r.socketEvent := by
    rw [Option.filter_some, if_pos r.named]
  unfold Publication.body receiptBody toFanoutPayload Publication.skipSocketId Publication.receiptData
  cases origin : r.request.originSocketId with
  | none => simp [origin, parseReceiptBrokerPayload, Json.asObject, Json.asString, nonemptyString, kept]
  | some socketId =>
    have solid : socketId ≠ "" := by
      intro empty
      exact r.origin (origin.trans (congrArg some empty))
    by_cases actor : r.participant.val = r.request.actorUserId <;>
      simp [origin, actor, solid, parseReceiptBrokerPayload, Json.asObject, Json.asString, nonemptyString, kept]

end Bodies

section Deliveries

def SocketEvent.isNotification : SocketEvent → Bool
  | .notification _ => true
  | _ => false

/-- A delivery emits the event at once, and afterwards at most the notification of a message. -/
structure DeliversEvent (d : Delivery) (e : Emission) : Prop where
  now : d.now = [e]
  later : ∀ reads, ∀ other ∈ d.later reads, SocketEvent.isNotification other.event = true

theorem directDelivery_delivers {body : Json} {message : MessageApiPayload} {skip : Option String} (user : String)
    (parsed : parseBrokerPayload body = some ⟨message, skip⟩) :
    DeliversEvent (directDelivery user body) ⟨"user:" ++ user, skip, .messageNew message⟩ := by
  unfold directDelivery
  rw [parsed]
  cases skip with
  | none =>
    refine ⟨rfl, fun reads other member => ?_⟩
    rw [List.mem_singleton.mp member]
    rfl
  | some socketId => exact ⟨rfl, fun reads other member => nomatch member⟩

/-- The consumer turns a publication back into its event. -/
theorem Publication.delivered (p : Publication) : DeliversEvent (delivery p.routingKey p.body) p.emission := by
  rw [delivery_routed p.routed]
  cases p with
  | toRecipient recipient m => exact directDelivery_delivers recipient.val (parseBrokerPayload_recipient m.doc)
  | toSender m origin => exact directDelivery_delivers m.doc.senderId (parseBrokerPayload_echo m.doc origin)
  | receipt r =>
    have parsed := parseReceipt_body r
    refine ⟨?_, fun reads other member => nomatch member⟩
    change deliverReceiptToSocketIo r.participant.val (Publication.receipt r).body = _
    unfold deliverReceiptToSocketIo
    rw [parsed]
    rfl
  | callIncoming c =>
    have parsed := parseCall_payload c
    refine ⟨?_, fun reads other member => nomatch member⟩
    change deliverCallIncomingNotificationToSocketIo c.callee.val (Publication.callPayload c) = _
    unfold deliverCallIncomingNotificationToSocketIo
    rw [parsed]
    rfl

end Deliveries

section Consumption

/-- What happens around a queue: a publish, a consumption of its first message, or the reply to a lookup. -/
inductive QueueEvent where
  | publish (p : Publication)
  | consume
  | resume (i : Nat) (reads : ConsumerReads)

/-- The message of a publication as the queue holds it. -/
def Publication.queued (p : Publication) : String × List UInt8 := (p.routingKey, encodePayload p.body)

def handleQueueEvent (s : Consumer) : QueueEvent → Consumer
  | .publish p => { s with queue := s.queue ++ [p.queued] }
  | .consume => s.consume
  | .resume i reads => s.resume i reads

def runQueue (events : List QueueEvent) : Consumer := events.foldl handleQueueEvent {}

def QueueEvent.published : QueueEvent → Option Publication
  | .publish p => some p
  | _ => none

/-- The publications of a run, in their order. -/
def publications (events : List QueueEvent) : List Publication := events.filterMap QueueEvent.published

/-- The emissions that are no notification of a message. -/
def eventsOf (emitted : List Emission) : List Emission :=
  emitted.filter fun e => !SocketEvent.isNotification e.event

/-- The publications are those consumed, whose events have been emitted in order, and those that wait. -/
structure InOrder (published consumed waiting : List Publication) (s : Consumer) : Prop where
  split : published = consumed ++ waiting
  queue : s.queue = waiting.map Publication.queued
  suspended : ∀ later ∈ s.suspended, ∀ reads, ∀ e ∈ later reads, SocketEvent.isNotification e.event = true
  emitted : eventsOf s.emitted = consumed.map Publication.emission

theorem eventsOf_notifications {emissions : List Emission}
    (all : ∀ e ∈ emissions, SocketEvent.isNotification e.event = true) : eventsOf emissions = [] := by
  apply List.filter_eq_nil_iff.mpr
  intro e member
  rw [all e member]
  decide

theorem eventsOf_append (first second : List Emission) :
    eventsOf (first ++ second) = eventsOf first ++ eventsOf second := List.filter_append ..

theorem eventsOf_emission (p : Publication) : eventsOf [p.emission] = [p.emission] := by
  cases p <;> rfl

variable {published consumed waiting : List Publication} {s : Consumer}

theorem InOrder.publish (order : InOrder published consumed waiting s) (p : Publication) :
    InOrder (published ++ [p]) consumed (waiting ++ [p]) (handleQueueEvent s (.publish p)) where
  split := by rw [order.split, List.append_assoc]
  queue := by
    change s.queue ++ [p.queued] = _
    rw [order.queue, List.map_append, List.map_singleton]
  suspended := order.suspended
  emitted := order.emitted

theorem InOrder.consume {p : Publication} (order : InOrder published consumed (p :: waiting) s) :
    InOrder published (consumed ++ [p]) waiting s.consume := by
  have delivers := p.delivered
  have taken : s.consume =
      { queue := waiting.map Publication.queued
        suspended := s.suspended ++ [(delivery p.routingKey p.body).later]
        emitted := s.emitted ++ (delivery p.routingKey p.body).now } := by
    unfold Consumer.consume
    rw [order.queue, List.map_cons]
    simp only [Publication.queued, bufferJson_encodePayload p.wellFormed]
  rw [taken]
  refine ⟨?_, rfl, ?_, ?_⟩
  · rw [order.split, List.append_assoc, List.singleton_append]
  · intro later member
    rcases List.mem_append.mp member with before | here
    · exact order.suspended later before
    · rw [List.mem_singleton.mp here]
      exact delivers.later
  · change eventsOf (s.emitted ++ (delivery p.routingKey p.body).now) = _
    rw [eventsOf_append, order.emitted, delivers.now, eventsOf_emission, List.map_append, List.map_singleton]

theorem InOrder.resume (order : InOrder published consumed waiting s) (i : Nat) (reads : ConsumerReads) :
    InOrder published consumed waiting (s.resume i reads) where
  split := order.split
  queue := order.queue
  suspended := fun later member => order.suspended later (List.mem_of_mem_eraseIdx member)
  emitted := by
    have notifications : eventsOf ((s.suspended[i]?).elim [] fun later => later reads) = [] := by
      apply eventsOf_notifications
      cases found : s.suspended[i]? with
      | none => exact fun e member => nomatch member
      | some later => exact order.suspended later (List.mem_of_getElem? found) reads
    change eventsOf (s.emitted ++ _) = _
    rw [eventsOf_append, notifications, List.append_nil]
    exact order.emitted

/-- Every run emits the events of what it has consumed in the order in which it was published. -/
theorem runQueue_inOrder (events : List QueueEvent) :
    ∃ consumed waiting, InOrder (publications events) consumed waiting (runQueue events) := by
  induction events using List.reverseRecOn with
  | nil => exact ⟨[], [], rfl, rfl, (fun later member => nomatch member), rfl⟩
  | append_singleton events event ih =>
    obtain ⟨consumed, waiting, order⟩ := ih
    have next : runQueue (events ++ [event]) = handleQueueEvent (runQueue events) event := by
      unfold runQueue
      rw [List.foldl_append]
      rfl
    have more : publications (events ++ [event]) = publications events ++ event.published.toList := by
      unfold publications
      rw [List.filterMap_append]
      cases event <;> rfl
    rw [next, more]
    cases event with
    | publish p => exact ⟨consumed, waiting ++ [p], order.publish p⟩
    | consume =>
      rw [show QueueEvent.consume.published.toList = [] from rfl, List.append_nil]
      cases waiting with
      | nil =>
        have empty : handleQueueEvent (runQueue events) .consume = runQueue events := by
          change (runQueue events).consume = _
          unfold Consumer.consume
          rw [order.queue]
          rfl
        rw [empty]
        exact ⟨consumed, [], order⟩
      | cons p waiting => exact ⟨consumed ++ [p], waiting, order.consume⟩
    | resume i reads =>
      rw [show (QueueEvent.resume i reads).published.toList = [] from rfl, List.append_nil]
      exact ⟨consumed, waiting, order.resume i reads⟩

end Consumption

end MessagingSystem.Protocol

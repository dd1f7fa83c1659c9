import MessagingSystem.Protocol.BrokerPublications

/-!
# The consumer inverts the publishers

Every routing key belongs to one family, every body is read back, and what is emitted
is what was published. A delivery emits its event before it awaits anything, so the
events of a user come in the order in which they were published.
-/
namespace MessagingSystem.Guarantees.BrokerAgreement
open Foundation Source.Server Source.Client Protocol

/-- What an instance emits for one message of its queue. -/
def emitted (reads : ConsumerReads) (message : String × List UInt8) : List Emission :=
  (bufferJson message.2).elim [] (deliverMessageToSocketIo reads message.1)

/-- A member of an object has no place in it. -/
def SameMembers (a b : Json) : Prop := ∃ first second, a = .object first ∧ b = .object second ∧ first.Perm second

/-- The payload of a `message:new`: the API's message, which a tab parses to the fields that an
acknowledgement of the message carries. -/
def CarriesMessage (m : PublishedMessage) (message : MessageApiPayload) : Prop :=
  Json.object message = messageDocumentToApi m.doc ∧
    ∃ parsed, parseMessageNewPayload (.object message) = some parsed ∧
      Json.object parsed.members = messageDocumentToApi m.doc

/-- The event has the published payload. -/
def Carries : Publication → SocketEvent → Prop
  | .toRecipient _ m, .messageNew message => CarriesMessage m message
  | .toSender m _, .messageNew message => CarriesMessage m message
  | .receipt r, .receipt name data => name = r.socketEvent ∧ SameMembers data (toFanoutPayload r.request r.at')
  | .callIncoming c, .callIncoming payload => payload = (Publication.callIncoming c).body
  | _, _ => False

/-- The consumer inverts a publication. -/
structure Inverted (p : Publication) : Prop where
  routed : ∀ family : RoutingFamily,
    family.target p.routingKey = if family = p.family then some p.target.val else none
  emitted : ∀ reads, ∃ event notifications,
    emitted reads p.queued = ⟨"user:" ++ p.target.val, p.skipSocketId, event⟩ :: notifications ∧
      Carries p event ∧ ∀ e ∈ notifications, SocketEvent.isNotification e.event = true

/-- The events `message:new` and those of receipts. -/
def isChat : SocketEvent → Bool
  | .messageNew _ => true
  | .receipt .. => true
  | _ => false

/-- What is emitted to a user of messages and receipts. -/
def chatOf (user : UserId) (emitted : List Emission) : List Emission :=
  emitted.filter fun e => e.room = "user:" ++ user.val && isChat e.event

/-- The messages and receipts that are published for a user. -/
def chatFor (user : UserId) (published : List Publication) : List Publication :=
  published.filter fun p => p.target.val = user.val && isChat p.event

/-- What has been published is what has been consumed and then what waits, and each user has
been sent the messages and receipts among the former, in their order. -/
def KeepsOrder (events : List QueueEvent) : Prop :=
  ∃ consumed waiting, publications events = consumed ++ waiting ∧
    (runQueue events).queue = waiting.map Publication.queued ∧
    ∀ user, chatOf user (runQueue events).emitted = (chatFor user consumed).map Publication.emission

section Inversion

theorem carriesMessage (m : PublishedMessage) : CarriesMessage m (messageMembers m.doc) := by
  refine ⟨rfl, apiMessage m.doc, ?_, ?_⟩
  · rw [← apiMessage_members]
    exact parseMessageNewPayload_members m.clean
  · rw [apiMessage_members]
    rfl

theorem receiptData_perm (r : PublishedReceipt) :
    SameMembers (.object (Publication.receiptData r)) (toFanoutPayload r.request r.at') := by
  refine ⟨_, _, rfl, rfl, ?_⟩
  exact @List.perm_middle _ _ [_, _] [_]

theorem carries_event (p : Publication) : Carries p p.event := by
  cases p with
  | toRecipient recipient m => exact carriesMessage m
  | toSender m origin => exact carriesMessage m
  | receipt r => exact ⟨rfl, receiptData_perm r⟩
  | callIncoming c => exact rfl

theorem inverted (p : Publication) : Inverted p := by
  refine ⟨p.routed, fun reads => ⟨p.event, (delivery p.routingKey p.body).later reads, ?_, carries_event p,
    p.delivered.later reads⟩⟩
  have read : bufferJson p.queued.2 = some p.body := bufferJson_encodePayload p.wellFormed
  unfold BrokerAgreement.emitted
  rw [read, Option.elim_some]
  change deliverMessageToSocketIo reads p.routingKey p.body = _
  rw [← delivery_joined, p.delivered.now]
  rfl

end Inversion

section Order

theorem isChat_not_notification {event : SocketEvent} (chat : isChat event = true) :
    SocketEvent.isNotification event = false := by
  cases event with
  | messageNew message => rfl
  | receipt name data => rfl
  | notification payload => cases chat
  | callIncoming payload => cases chat

theorem chatOf_eventsOf (user : UserId) (emissions : List Emission) :
    chatOf user (eventsOf emissions) = chatOf user emissions := by
  unfold chatOf eventsOf
  rw [List.filter_filter]
  apply List.filter_congr
  intro e _
  cases chat : isChat e.event with
  | false => rw [Bool.and_false, Bool.false_and]
  | true => rw [isChat_not_notification chat, Bool.not_false, Bool.and_true]

theorem chatOf_emissions (user : UserId) (published : List Publication) :
    chatOf user (published.map Publication.emission) = (chatFor user published).map Publication.emission := by
  unfold chatOf chatFor
  rw [List.filter_map]
  apply congrArg
  apply List.filter_congr
  intro p _
  have room : ("user:" ++ p.target.val = "user:" ++ user.val) ↔ p.target.val = user.val :=
    String.append_right_inj "user:"
  simp only [Function.comp_apply, Publication.emission, room]

theorem keepsOrder (events : List QueueEvent) : KeepsOrder events := by
  obtain ⟨consumed, waiting, order⟩ := runQueue_inOrder events
  refine ⟨consumed, waiting, order.split, order.queue, fun user => ?_⟩
  rw [← chatOf_eventsOf, order.emitted, chatOf_emissions]

end Order

end MessagingSystem.Guarantees.BrokerAgreement

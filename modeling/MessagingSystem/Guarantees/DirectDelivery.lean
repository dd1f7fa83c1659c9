import Mathlib.Data.List.Permutation
import MessagingSystem.Protocol.MessageFanOut

/-!
# Delivery of direct messages

Two broker messages reach every replica's queue: the recipient's message and
the sender's echo. The consumer takes an echo without `skipSocketId` for a
recipient fan-out, as it is after `POST /messages`; and two instance ids can
name one queue, whose messages then reach one of the replicas only.
-/
namespace MessagingSystem.Guarantees.DirectDelivery
open Foundation Source.Server Protocol

/-- A direct send that succeeded, with its two parties. -/
structure DirectSend where
  store : Database
  reached : ReachedStore store
  sender : UserId
  payload : SendMessageRequest
  stamp : SendStamp
  entry : SendEntry
  doc : MessageDocument
  after : Database
  success : ServerProgram.exec
    (sendMessageForUser sender.val payload stamp entry.originSocketId) store = (.ok doc, after)

namespace DirectSend

/-- What the send handed to the broker. -/
def published (send : DirectSend) : List (String × Json) :=
  send.after.published.drop send.store.published.length

/-- `user` is the recipient of the send. -/
def IsRecipient (send : DirectSend) (user : String) : Prop :=
  recipientOf send.store send.sender.val send.payload = some user

/-- The socket is the one the message came in by. -/
def IsOrigin (send : DirectSend) (σ : Socket) : Prop :=
  send.entry.originSocketId = some σ.id.val

end DirectSend

/-- The contract of one drained delivery. -/
structure Delivered (send : DirectSend) (topology : Topology) (history : List Consumption) :
    Prop where
  recipient : ∀ r ∈ topology.replicas, ∀ σ ∈ r.sockets, ∀ user, σ.userId = some user →
    send.IsRecipient user →
    (σ.received r history).filterMap SocketEvent.newMessage = [messageMembers send.doc]
  sender : ∀ r ∈ topology.replicas, ∀ σ ∈ r.sockets, σ.userId = some send.sender.val →
    ¬ send.IsOrigin σ →
    (σ.received r history).filterMap SocketEvent.newMessage = [messageMembers send.doc]
  notified : ∀ r ∈ topology.replicas, ∀ σ ∈ r.sockets, ∀ user, σ.userId = some user →
    send.IsRecipient user →
    ∃ n, (σ.received r history).filterMap SocketEvent.messageNotification = [n] ∧
      n.messageId = some (.string send.doc.id)
  quiet : ∀ r ∈ topology.replicas, ∀ σ ∈ r.sockets, σ.userId = some send.sender.val →
    (σ.received r history).filterMap SocketEvent.messageNotification = []

/-- A socket the contract promises the message to. -/
def Awaits (send : DirectSend) (σ : Socket) : Prop :=
  ∃ user, σ.userId = some user ∧
    (send.IsRecipient user ∨ (user = send.sender.val ∧ ¬ send.IsOrigin σ))

/-- The message came in by a socket, or its sender has no socket; and every
replica with a socket that awaits the message has a queue of its own. -/
def Deliverable (send : DirectSend) (topology : Topology) : Prop :=
  (send.entry ≠ .postMessage ∨
    ∀ r ∈ topology.replicas, ∀ σ ∈ r.sockets, σ.userId ≠ some send.sender.val) ∧
  ∀ r ∈ topology.replicas, (∃ σ ∈ r.sockets, Awaits send σ) →
    ∀ r' ∈ topology.replicas, r'.queueName = r.queueName → r' = r

section Events

variable (σ : Socket) (d : Consumption)

theorem eventsOf_user {user : UserId} {body : Json}
    (message : d.message = ("message.user." ++ user.val, body)) :
    σ.eventsOf d = ((deliverDirectMessage d.context user.val body).filter σ.receives).map
      fun e => e.event := by
  simp only [Socket.eventsOf, message, deliver_user]

/-- The recipient's broker message reaches the recipient's sockets. -/
theorem eventsOf_recipient {recipient : UserId} {doc : MessageDocument}
    (message : d.message = ("message.user." ++ recipient.val, messageDocumentToApi doc)) :
    σ.eventsOf d = if σ.userId = some recipient.val then
      [.messageNew (messageMembers doc),
        (emitMessageNotificationDirect d.context recipient.val (messageMembers doc)).event]
      else [] := by
  rw [eventsOf_user σ d message, deliverDirectMessage, parseBrokerPayload_recipient]
  simp only [emitMessageNotificationDirect, List.filter_cons, receives_user, List.filter_nil]
  by_cases owner : σ.userId = some recipient.val <;> simp [owner]

/-- An echo that skips a socket reaches the sender's other sockets, without a
notification. -/
theorem eventsOf_echo_socket {sender : UserId} {doc : MessageDocument} {id : SocketId}
    (message : d.message =
      ("message.user." ++ sender.val, senderEcho (messageDocumentToApi doc) (some id.val))) :
    σ.eventsOf d = if σ.userId = some sender.val ∧ σ.id ≠ id then
      [.messageNew (messageMembers doc)] else [] := by
  have parsed := parseBrokerPayload_echo doc (some id)
  rw [Option.map_some] at parsed
  rw [eventsOf_user σ d message, deliverDirectMessage, parsed]
  simp only [List.filter_cons, receives_user_except, List.filter_nil]
  by_cases owner : σ.userId = some sender.val ∧ σ.id ≠ id <;> simp [owner]

/-- An echo that skips no socket is taken for a recipient's message. -/
theorem eventsOf_echo_post {sender : UserId} {doc : MessageDocument}
    (message : d.message =
      ("message.user." ++ sender.val, senderEcho (messageDocumentToApi doc) none)) :
    σ.eventsOf d = if σ.userId = some sender.val then
      [.messageNew (messageMembers doc),
        (emitMessageNotificationDirect d.context sender.val (messageMembers doc)).event]
      else [] := by
  have parsed := parseBrokerPayload_echo doc none
  rw [Option.map_none] at parsed
  rw [eventsOf_user σ d message, deliverDirectMessage, parsed]
  simp only [emitMessageNotificationDirect, List.filter_cons, receives_user, List.filter_nil]
  by_cases owner : σ.userId = some sender.val <;> simp [owner]

/-- A consumption of the other user's message brings a socket nothing. -/
theorem eventsOf_other {user other : UserId} {body : Json}
    (message : d.message = ("message.user." ++ user.val, body)) (owner : σ.userId = some other.val)
    (different : other.val ≠ user.val) : σ.eventsOf d = [] := by
  rw [eventsOf_user σ d message, List.map_eq_nil_iff, List.filter_eq_nil_iff]
  intro e member
  have room : e.room = "user:" ++ user.val := by
    unfold deliverDirectMessage at member
    split at member
    · cases member
    · split at member <;> simp [emitMessageNotificationDirect] at member
      · rw [member]
      · rcases member with rfl | rfl <;> rfl
  intro received
  have inRoom : σ.rooms.contains e.room = true := (Bool.and_eq_true _ _ ▸ received).1
  rw [room, mem_rooms_user, owner] at inRoom
  exact different (Option.some.inj inRoom)

end Events

section Drained

variable {topology : Topology} {history : List Consumption} {r : Replica}

/-- A replica with its own queue consumes each of two messages once. -/
theorem received_pair {first second : String × Json} (σ : Socket)
    (drained : topology.Drained [first, second] history) (member : r ∈ topology.replicas)
    (alone : ∀ r' ∈ topology.replicas, r'.queueName = r.queueName → r' = r) :
    ∃ d e : Consumption, d.message = first ∧ e.message = second ∧
      (σ.received r history = σ.eventsOf d ++ σ.eventsOf e ∨
        σ.received r history = σ.eventsOf e ++ σ.eventsOf d) := by
  have own := FanOut.CompleteDelivery.own_messages drained member alone
  unfold Socket.received
  have two := own.length_eq
  rw [List.length_map] at two
  obtain ⟨a, b, list⟩ := List.length_eq_two.mp two
  rw [list] at own ⊢
  simp only [List.map_cons, List.map_nil, List.flatMap_cons, List.flatMap_nil, List.append_nil]
    at own ⊢
  rcases List.perm_pair.mp own with same | same
  · cases same
    exact ⟨a, b, rfl, rfl, .inl rfl⟩
  · cases same
    exact ⟨b, a, rfl, rfl, .inr rfl⟩

end Drained

section Contract

variable {send : DirectSend} {topology : Topology} {history : List Consumption} {r : Replica}

/-- The two broker messages of a send, and its recipient. -/
theorem DirectSend.publishes (send : DirectSend) :
    ∃ recipient : UserId, send.IsRecipient recipient.val ∧ recipient.val ≠ send.sender.val ∧
      send.published =
        [("message.user." ++ recipient.val, messageDocumentToApi send.doc),
          ("message.user." ++ send.sender.val,
            senderEcho (messageDocumentToApi send.doc) send.entry.originSocketId)] := by
  obtain ⟨recipient, addressed, different, own, published⟩ :=
    sendMessageForUser_publishes send.reached.trimmedParticipants send.success
  refine ⟨recipient, addressed, different, ?_⟩
  rw [DirectSend.published, published, List.drop_left, directMessages, own]

/-- A recipient's socket receives the message and one notification. -/
theorem recipient_receives {recipient : UserId} {echo : Json}
    (different : recipient.val ≠ send.sender.val) {σ : Socket}
    (owner : σ.userId = some recipient.val)
    (drained : topology.Drained
      [("message.user." ++ recipient.val, messageDocumentToApi send.doc),
        ("message.user." ++ send.sender.val, echo)] history)
    (member : r ∈ topology.replicas)
    (alone : ∀ r' ∈ topology.replicas, r'.queueName = r.queueName → r' = r) :
    ∃ n, σ.received r history = [.messageNew (messageMembers send.doc), .notification n] ∧
      n.messageId = some (.string send.doc.id) := by
  obtain ⟨d, e, first, second, received⟩ := received_pair σ drained member alone
  rw [eventsOf_recipient σ d first, if_pos owner, eventsOf_other σ e second owner different]
    at received
  exact ⟨_, by simpa [emitMessageNotificationDirect] using received,
    member_messageMembers_id send.doc⟩

/-- Another socket of the sender receives the message and no notification. -/
theorem sender_receives {recipient : UserId} {id : SocketId}
    (different : recipient.val ≠ send.sender.val) {σ : Socket}
    (owner : σ.userId = some send.sender.val) (other : σ.id ≠ id)
    (drained : topology.Drained
      [("message.user." ++ recipient.val, messageDocumentToApi send.doc),
        ("message.user." ++ send.sender.val,
          senderEcho (messageDocumentToApi send.doc) (some id.val))] history)
    (member : r ∈ topology.replicas)
    (alone : ∀ r' ∈ topology.replicas, r'.queueName = r.queueName → r' = r) :
    σ.received r history = [.messageNew (messageMembers send.doc)] := by
  obtain ⟨d, e, first, second, received⟩ := received_pair σ drained member alone
  rw [eventsOf_other σ d first owner different.symm, eventsOf_echo_socket σ e second,
    if_pos ⟨owner, other⟩] at received
  simpa using received

/-- A skipped socket keeps every echo free of notifications. -/
theorem sender_quiet {recipient : UserId} {id : SocketId}
    (different : recipient.val ≠ send.sender.val) {σ : Socket}
    (owner : σ.userId = some send.sender.val)
    (drained : topology.Drained
      [("message.user." ++ recipient.val, messageDocumentToApi send.doc),
        ("message.user." ++ send.sender.val,
          senderEcho (messageDocumentToApi send.doc) (some id.val))] history) :
    (σ.received r history).filterMap SocketEvent.messageNotification = [] := by
  rw [Socket.received, List.filterMap_flatMap, List.flatMap_eq_nil_iff]
  intro d consumed
  have published := FanOut.CompleteDelivery.mem_messages drained (List.mem_of_mem_filter consumed)
  rcases List.mem_cons.mp published with first | rest
  · rw [eventsOf_other σ d first owner different.symm]
    rfl
  · rw [eventsOf_echo_socket σ d (List.mem_singleton.mp rest)]
    split <;> rfl

theorem delivered_of_deliverable (deliverable : Deliverable send topology)
    (drained : topology.Drained send.published history) : Delivered send topology history := by
  obtain ⟨entry, queues⟩ := deliverable
  obtain ⟨recipient, addressed, different, published⟩ := send.publishes
  rw [published] at drained
  have recipientIs : ∀ user, send.IsRecipient user → user = recipient.val := fun user is =>
    Option.some.inj (is.symm.trans addressed)
  have received : ∀ r ∈ topology.replicas, ∀ σ ∈ r.sockets, ∀ user, σ.userId = some user →
      send.IsRecipient user →
      ∃ n, σ.received r history = [.messageNew (messageMembers send.doc), .notification n] ∧
        n.messageId = some (.string send.doc.id) := by
    intro r member σ socket user owner is
    have alone := queues r member ⟨σ, socket, user, owner, .inl is⟩
    exact recipient_receives different (recipientIs user is ▸ owner) drained member alone
  refine ⟨?_, ?_, ?_, ?_⟩
  · intro r member σ socket user owner is
    obtain ⟨n, events, -⟩ := received r member σ socket user owner is
    rw [events]
    rfl
  · intro r member σ socket owner notOrigin
    have alone := queues r member ⟨σ, socket, _, owner, .inr ⟨rfl, notOrigin⟩⟩
    cases came : send.entry with
    | postMessage =>
      exact absurd owner ((entry.resolve_left (not_not.mpr came)) r member σ socket)
    | messageSend id =>
      have other : σ.id ≠ id := by
        rintro rfl
        exact notOrigin (by simp [DirectSend.IsOrigin, came, SendEntry.originSocketId])
      rw [came] at drained
      rw [sender_receives different owner other drained member alone]
      rfl
  · intro r member σ socket user owner is
    obtain ⟨n, events, named⟩ := received r member σ socket user owner is
    exact ⟨n, by rw [events]; rfl, named⟩
  · intro r member σ socket owner
    cases came : send.entry with
    | postMessage =>
      exact absurd owner ((entry.resolve_left (not_not.mpr came)) r member σ socket)
    | messageSend id =>
      rw [came] at drained
      exact sender_quiet different owner drained

/-- A replica that shares its queue may leave its sockets without the message. -/
theorem queue_unshared
    (delivers : ∀ history, topology.Drained send.published history → Delivered send topology history)
    (member : r ∈ topology.replicas) {σ : Socket} (socket : σ ∈ r.sockets) (awaits : Awaits send σ) :
    ∀ r' ∈ topology.replicas, r'.queueName = r.queueName → r' = r := by
  intro r' member' shared
  by_contra different
  obtain ⟨history, drained, starved⟩ :=
    FanOut.exists_starved member' different shared (⟨none, "", ""⟩ : ConsumerReads) send.published
  have nothing : σ.received r history = [] := by simp [Socket.received, starved]
  have delivered := delivers history drained
  obtain ⟨user, owner, is | ⟨rfl, notOrigin⟩⟩ := awaits
  · have one := delivered.recipient r member σ socket user owner is
    simp [nothing] at one
  · have one := delivered.sender r member σ socket owner notOrigin
    simp [nothing] at one

theorem deliverable_of_delivered
    (delivers : ∀ history, topology.Drained send.published history →
      Delivered send topology history) : Deliverable send topology := by
  refine ⟨?_, fun r member ⟨σ, socket, awaits⟩ => queue_unshared delivers member socket awaits⟩
  by_contra neither
  obtain ⟨post, sockets⟩ := not_or.mp neither
  have came : send.entry = .postMessage := not_not.mp post
  push Not at sockets
  obtain ⟨r, member, σ, socket, owner⟩ := sockets
  have notOrigin : ¬ send.IsOrigin σ := by
    simp [DirectSend.IsOrigin, came, SendEntry.originSocketId]
  have alone := queue_unshared delivers member socket ⟨_, owner, .inr ⟨rfl, notOrigin⟩⟩
  have some : ∃ history, topology.Drained send.published history :=
    FanOut.exists_delivery r (⟨none, "", ""⟩ : ConsumerReads) send.published
  obtain ⟨history, drained⟩ := some
  have quiet := (delivers history drained).quiet r member σ socket owner
  obtain ⟨recipient, -, different, published⟩ := send.publishes
  rw [published, came] at drained
  obtain ⟨d, e, first, second, received⟩ := received_pair σ drained member alone
  rw [eventsOf_other σ d first owner different.symm, eventsOf_echo_post σ e second, if_pos owner,
    List.nil_append, List.append_nil, or_self] at received
  rw [received] at quiet
  cases quiet

/-- A direct send keeps its delivery contract, however its broker messages are
consumed, exactly when it came in by a socket or its sender has no socket, and
no replica with an awaiting socket shares its queue. -/
theorem delivered_iff (send : DirectSend) (topology : Topology) :
    (∀ history, topology.Drained send.published history → Delivered send topology history) ↔
      Deliverable send topology :=
  ⟨deliverable_of_delivered, fun deliverable _ drained =>
    delivered_of_deliverable deliverable drained⟩

example : instanceQueueName "node/1" = instanceQueueName "node-1" := by decide

end Contract

section Runs

open UserId (alice)

def twoUsers : Database := { users := [⟨"alice", false, none⟩, ⟨"bob", false, none⟩] }

theorem twoUsers_reached : ReachedStore twoUsers :=
  ⟨twoUsers, [], ⟨List.nodup_nil, List.nodup_nil⟩, rfl, .nil⟩

def greeting : SendMessageRequest := { recipientUserId := .value "bob", body := .value "hi" }

/-- What the store answers when `alice` greets `bob`. -/
def greet (entry : SendEntry) : Except AppError MessageDocument × Database :=
  ServerProgram.exec (sendMessageForUser alice.val greeting ⟨"c", "m", 1, 86400⟩ entry.originSocketId)
    twoUsers

theorem exists_greeting (entry : SendEntry) (sent : (greet entry).1.isOk = true) :
    ∃ send : DirectSend, send.entry = entry ∧ send.sender = alice ∧ send.IsRecipient "bob" := by
  have recipient : recipientOf twoUsers alice.val greeting = some "bob" := by decide
  cases answer : greet entry with
  | mk result after =>
    rw [answer] at sent
    cases result with
    | error e => cases sent
    | ok doc =>
      exact ⟨⟨twoUsers, twoUsers_reached, alice, greeting, ⟨"c", "m", 1, 86400⟩, entry, doc, after, answer⟩,
        rfl, rfl, recipient⟩

def aliceTab : Socket := ⟨⟨"s1", by decide, by decide⟩, some "alice"⟩

def alicePhone : Socket := ⟨⟨"s2", by decide, by decide⟩, some "alice"⟩

def bobTab : Socket := ⟨⟨"s3", by decide, by decide⟩, some "bob"⟩

/-- Two replicas with queues of their own. -/
def twoReplicas : Topology :=
  { replicas := [⟨"node-1", [aliceTab, bobTab]⟩, ⟨"node-2", [alicePhone]⟩]
    distinctInstances := by decide }

/-- Sent from a tab, the message is delivered. -/
theorem delivered_from_tab :
    ∃ send : DirectSend, send.entry = .messageSend aliceTab.id ∧ send.IsRecipient "bob" ∧
      (∀ history, twoReplicas.Drained send.published history →
        Delivered send twoReplicas history) ∧
      ∃ history, twoReplicas.Drained send.published history := by
  obtain ⟨send, entry, -, recipient⟩ := exists_greeting (.messageSend aliceTab.id) (by decide)
  refine ⟨send, entry, recipient, (delivered_iff send twoReplicas).mpr ⟨.inl ?_, ?_⟩, ?_⟩
  · rw [entry]
    exact fun same => SendEntry.noConfusion same
  · intro r member _ r' member'
    have own : ∀ r ∈ twoReplicas.replicas, ∀ r' ∈ twoReplicas.replicas,
        r'.queueName = r.queueName → r' = r := by decide
    exact own r member r' member'
  · exact FanOut.exists_delivery ⟨"node-1", []⟩ (⟨none, "", ""⟩ : ConsumerReads) send.published

/-- Sent by `POST /messages`, the message notifies the sender's own sockets. -/
theorem post_notifies_sender :
    ¬ ∀ (send : DirectSend) (topology : Topology) (history : List Consumption),
      topology.Drained send.published history → Delivered send topology history := by
  intro claim
  obtain ⟨send, entry, sender, -⟩ := exists_greeting .postMessage (by decide)
  obtain ⟨came | offline, -⟩ := deliverable_of_delivered (claim send twoReplicas)
  · exact came entry
  · refine offline ⟨"node-1", [aliceTab, bobTab]⟩ (by decide) aliceTab (by decide) ?_
    rw [sender]
    rfl

end Runs

end MessagingSystem.Guarantees.DirectDelivery

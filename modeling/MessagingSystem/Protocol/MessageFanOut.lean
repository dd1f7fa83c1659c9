import MessagingSystem.Foundation.FanOut
import MessagingSystem.Protocol.ServerRequests
import MessagingSystem.Source.Server.Broker
import MessagingSystem.Source.Server.SendEffects

/-!
# Replicas, sockets and the broker

The replicas of the service with their connected sockets. Every replica binds
its queue to all message keys, consumes it, and emits to its own rooms: a
socket is in the room of its id and, when authenticated, in its user's room.
-/
namespace MessagingSystem.Protocol
open Foundation Source.Server

/-- A socket id: Engine.IO draws it from an alphabet without a colon. -/
structure SocketId where
  val : String
  nonempty : val ≠ ""
  plain : ':' ∉ val.toList

theorem SocketId.ext_val {a b : SocketId} (same : a.val = b.val) : a = b := by
  cases a
  cases b
  cases same
  rfl

instance : DecidableEq SocketId := fun a b =>
  decidable_of_iff (a.val = b.val) ⟨SocketId.ext_val, fun same => same ▸ rfl⟩

structure Socket where
  id : SocketId
  userId : Option String
  deriving DecidableEq

structure Replica where
  instanceId : String
  sockets : List Socket
  deriving DecidableEq

/-- Replicas with distinct instance ids. -/
structure Topology where
  replicas : List Replica
  distinctInstances : (replicas.map fun r => r.instanceId).Nodup

/-- How a direct message comes in. -/
inductive SendEntry where
  | postMessage
  | messageSend (socket : SocketId)

def SendEntry.originSocketId : SendEntry → Option String
  | .postMessage => none
  | .messageSend socket => some socket.val

def Socket.rooms (σ : Socket) : List String :=
  σ.id.val :: (σ.userId.map fun id => "user:" ++ id).toList

def Socket.receives (σ : Socket) (e : Emission) : Bool :=
  σ.rooms.contains e.room &&
    match e.except with
    | some room => !σ.rooms.contains room
    | none => true

/-- A consumption of a broker message by a replica. -/
abbrev Consumption := FanOut.Delivered Replica (String × Json) ConsumerReads

def Replica.queueName (r : Replica) : String := instanceQueueName r.instanceId

/-- All queues are drained of the published messages, in any order. -/
def Topology.Drained (topology : Topology) (published : List (String × Json))
    (history : List Consumption) : Prop :=
  FanOut.CompleteDelivery Replica.queueName topology.replicas published history

/-- The events a consumption makes a socket of the replica receive. -/
def Socket.eventsOf (σ : Socket) (d : Consumption) : List SocketEvent :=
  ((deliverMessageToSocketIo d.context d.message.1 d.message.2).filter σ.receives).map fun e => e.event

/-- Everything a socket of the replica receives. -/
def Socket.received (σ : Socket) (r : Replica) (history : List Consumption) : List SocketEvent :=
  (FanOut.consumedBy r history).flatMap σ.eventsOf

def SocketEvent.newMessage : SocketEvent → Option MessageApiPayload
  | .messageNew message => some message
  | _ => none

def SocketEvent.messageNotification : SocketEvent → Option MessageKindNotificationPayload
  | .notification payload => some payload
  | _ => none

section Rooms

theorem user_ne_socketId (id : SocketId) (user : String) : "user:" ++ user ≠ id.val := by
  intro same
  refine id.plain ?_
  rw [← same]
  simp

theorem mem_rooms_user {σ : Socket} {user : String} :
    σ.rooms.contains ("user:" ++ user) = true ↔ σ.userId = some user := by
  unfold Socket.rooms
  cases owner : σ.userId with
  | none => simpa [owner] using user_ne_socketId σ.id user
  | some other =>
    simp only [Option.map_some, Option.toList_some, List.contains_eq_mem, List.mem_cons,
      List.not_mem_nil, or_false, decide_eq_true_eq, user_ne_socketId σ.id user, false_or,
      Option.some.injEq]
    constructor
    · intro same
      exact (String.append_right_inj "user:").mp same.symm
    · rintro rfl
      rfl

theorem mem_rooms_socketId {σ : Socket} {id : SocketId} :
    σ.rooms.contains id.val = true ↔ σ.id = id := by
  have room : id.val ∉ (σ.userId.map fun user => "user:" ++ user).toList := by
    intro member
    obtain ⟨user, -, same⟩ := Option.map_eq_some_iff.mp (Option.mem_toList.mp member)
    exact user_ne_socketId id user same
  unfold Socket.rooms
  simp only [List.contains_eq_mem, List.mem_cons, decide_eq_true_eq, room, or_false]
  exact ⟨fun same => SocketId.ext_val same.symm, fun same => same ▸ rfl⟩

@[simp] theorem receives_user (σ : Socket) (user : String) (event : SocketEvent) :
    σ.receives ⟨"user:" ++ user, none, event⟩ = decide (σ.userId = some user) := by
  rw [Bool.eq_iff_iff]
  simp only [Socket.receives, Bool.and_true, mem_rooms_user, decide_eq_true_eq]

@[simp] theorem receives_user_except (σ : Socket) (user : String) (id : SocketId)
    (event : SocketEvent) :
    σ.receives ⟨"user:" ++ user, some id.val, event⟩ =
      decide (σ.userId = some user ∧ σ.id ≠ id) := by
  rw [Bool.eq_iff_iff]
  simp only [Socket.receives, Bool.and_eq_true, mem_rooms_user, Bool.not_eq_true',
    ← Bool.not_eq_true, mem_rooms_socketId, decide_eq_true_eq, ne_eq]

end Rooms

section Deliveries

variable (reads : ConsumerReads) (doc : MessageDocument)

theorem member_messageMembers_id : Json.member (messageMembers doc) "id" = some (.string doc.id) := by
  simp [messageMembers]

theorem member_messageMembers_message : Json.member (messageMembers doc) "message" = none := by
  cases keys : doc.encryptedMessageKeys <;> cases iv : doc.iv <;> cases alg : doc.algorithm <;>
    simp [messageMembers, keyMembers, optionalMember, keys, iv, alg]

theorem withStringId_messageDocumentToApi :
    withStringId (some (messageDocumentToApi doc)) = some (messageMembers doc) := by
  simp [withStringId, messageDocumentToApi, Json.asObject, member_messageMembers_id, Json.asString]

theorem parseBrokerPayload_recipient :
    parseBrokerPayload (messageDocumentToApi doc) = some ⟨messageMembers doc, none⟩ := by
  unfold parseBrokerPayload
  rw [withStringId_messageDocumentToApi]
  simp [messageDocumentToApi, Json.asObject, member_messageMembers_message, withStringId]

theorem parseBrokerPayload_echo (origin : Option SocketId) :
    parseBrokerPayload (senderEcho (messageDocumentToApi doc) (origin.map SocketId.val)) =
      some ⟨messageMembers doc, origin.map SocketId.val⟩ := by
  unfold parseBrokerPayload senderEcho
  simp only [Json.asObject, Option.bind_eq_bind, Option.bind_some, Json.member_cons_self,
    withStringId_messageDocumentToApi]
  cases origin with
  | none => simp [nonemptyString, Json.asString]
  | some id => simp [nonemptyString, Json.asString, id.nonempty]

/-- The four parsers of routing keys on the key of a user. -/
theorem routingKey_user (user : UserId) :
    parseReceiptRoutingKey ("message.user." ++ user.val) = none ∧
      parseCallIncomingRoutingKey ("message.user." ++ user.val) = none ∧
      parseGroupRoutingKey ("message.user." ++ user.val) = none ∧
      parseDirectUserRoutingKey ("message.user." ++ user.val) = some user.val := by
  refine ⟨?_, ?_, ?_, ?_⟩
  · simp [parseReceiptRoutingKey, routingTarget, EcmaText.startsWith, MESSAGE_ROUTING_PREFIX]
  · simp [parseCallIncomingRoutingKey, routingTarget, EcmaText.startsWith, CALL_INCOMING_ROUTING_PREFIX]
  · simp [parseGroupRoutingKey, routingTarget, EcmaText.startsWith, MESSAGE_ROUTING_PREFIX]
  · have start : MESSAGE_ROUTING_PREFIX ++ ".user." = "message.user." := by decide
    simp [parseDirectUserRoutingKey, routingTarget, start, user.trim_val, user.nonempty]

theorem deliver_user (user : UserId) (body : Json) :
    deliverMessageToSocketIo reads ("message.user." ++ user.val) body =
      deliverDirectMessage reads user.val body := by
  obtain ⟨receipt, call, group, direct⟩ := routingKey_user user
  simp only [deliverMessageToSocketIo, receipt, call, group, direct]

end Deliveries

end MessagingSystem.Protocol

import MessagingSystem.Foundation.JsonText
import MessagingSystem.Source.Server.Broker

/-!
# The queue of an instance

`encodePayload` and the consumer of `connectRabbitInner`: bodies are bytes, and a
delivery emits some of its events before its first `await`, which looks up the
sender, and the others after it.
-/
namespace MessagingSystem.Source.Server
open Foundation

/-- `Buffer.from(JSON.stringify(payload), 'utf8')`. -/
def encodePayload (payload : Json) : List UInt8 := payload.stringify.toList.flatMap TextCoding.encodeChar

/-- `JSON.parse(buf.toString('utf8'))`. -/
def bufferJson (buf : List UInt8) : Option Json := Json.parse (String.ofList (TextCoding.decodeFrom {} buf))

theorem bufferJson_encodePayload {payload : Json} (wf : payload.wellFormed = true) :
    bufferJson (encodePayload payload) = some payload := by
  unfold bufferJson encodePayload
  rw [TextCoding.decodeFrom_encode, String.ofList_toList]
  exact Json.parse_stringify wf

/-- What a delivery emits at once, and what it emits when it knows the sender. -/
structure Delivery where
  now : List Emission := []
  later : ConsumerReads → List Emission := fun _ => []

def groupDelivery (groupId : String) (body : Json) : Delivery :=
  match parseBrokerPayload body with
  | none => {}
  | some parsed =>
      { now := [⟨"group:" ++ groupId, parsed.skipSocketId, .messageNew parsed.message⟩]
        later := fun reads => [⟨"group:" ++ groupId, parsed.skipSocketId, .notification
          (buildMessageKindNotificationPayload reads parsed.message "group" (some groupId))⟩] }

def directDelivery (userId : String) (body : Json) : Delivery :=
  match parseBrokerPayload body with
  | none => {}
  | some parsed =>
      match parsed.skipSocketId with
      | some socketId => { now := [⟨"user:" ++ userId, some socketId, .messageNew parsed.message⟩] }
      | none =>
          { now := [⟨"user:" ++ userId, none, .messageNew parsed.message⟩]
            later := fun reads => [emitMessageNotificationDirect reads userId parsed.message] }

/-- `deliverMessageToSocketIo`, up to its `await` and from there on. -/
def delivery (routingKey : String) (body : Json) : Delivery :=
  match parseReceiptRoutingKey routingKey with
  | some receiptTarget => { now := deliverReceiptToSocketIo receiptTarget body }
  | none =>
    match parseCallIncomingRoutingKey routingKey with
    | some calleeUserId => { now := deliverCallIncomingNotificationToSocketIo calleeUserId body }
    | none =>
      match parseGroupRoutingKey routingKey with
      | some groupId => groupDelivery groupId body
      | none =>
        match parseDirectUserRoutingKey routingKey with
        | some userId => directDelivery userId body
        | none => {}

theorem groupDelivery_joined (reads : ConsumerReads) (groupId : String) (body : Json) :
    (groupDelivery groupId body).now ++ (groupDelivery groupId body).later reads =
      deliverGroupMessage reads groupId body := by
  unfold groupDelivery deliverGroupMessage
  cases parseBrokerPayload body with
  | none => rfl
  | some parsed => rfl

theorem directDelivery_joined (reads : ConsumerReads) (userId : String) (body : Json) :
    (directDelivery userId body).now ++ (directDelivery userId body).later reads =
      deliverDirectMessage reads userId body := by
  unfold directDelivery deliverDirectMessage
  cases parseBrokerPayload body with
  | none => rfl
  | some parsed =>
    dsimp only
    cases parsed.skipSocketId with
    | none => rfl
    | some socketId => rfl

/-- The two parts of a delivery are the delivery. -/
theorem delivery_joined (reads : ConsumerReads) (routingKey : String) (body : Json) :
    (delivery routingKey body).now ++ (delivery routingKey body).later reads =
      deliverMessageToSocketIo reads routingKey body := by
  unfold delivery deliverMessageToSocketIo
  cases parseReceiptRoutingKey routingKey with
  | some target => exact List.append_nil _
  | none =>
    dsimp only
    cases parseCallIncomingRoutingKey routingKey with
    | some callee => exact List.append_nil _
    | none =>
      dsimp only
      cases parseGroupRoutingKey routingKey with
      | some group => exact groupDelivery_joined reads group body
      | none =>
        dsimp only
        cases parseDirectUserRoutingKey routingKey with
        | some user => exact directDelivery_joined reads user body
        | none => rfl

/-- The consumer of a queue: the messages that wait, the deliveries that wait for their sender, and
what has been emitted. -/
structure Consumer where
  queue : List (String × List UInt8) := []
  suspended : List (ConsumerReads → List Emission) := []
  emitted : List Emission := []

/-- The broker hands the first message over. A body that is no JSON is logged. -/
def Consumer.consume (s : Consumer) : Consumer :=
  match s.queue with
  | [] => s
  | (routingKey, content) :: queue =>
      match bufferJson content with
      | none => { s with queue := queue }
      | some body =>
          { queue := queue
            suspended := s.suspended ++ [(delivery routingKey body).later]
            emitted := s.emitted ++ (delivery routingKey body).now }

/-- The lookup of one delivery has its reply. -/
def Consumer.resume (s : Consumer) (i : Nat) (reads : ConsumerReads) : Consumer :=
  { s with
    suspended := s.suspended.eraseIdx i
    emitted := s.emitted ++ (s.suspended[i]?).elim [] fun later => later reads }

end MessagingSystem.Source.Server

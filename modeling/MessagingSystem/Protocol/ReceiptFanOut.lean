import MessagingSystem.Foundation.Transition
import MessagingSystem.Source.Server.Broker
import MessagingSystem.Source.Server.ReceiptSummary

/-!
# Receipt events and a tab that folds them

The receipt events that are handled one after another, and one tab of a user
that merges every fan-out addressed to its user, in publish order, into
`receiptsByMessageId`.
-/
namespace MessagingSystem.Protocol
open Foundation Source.Server Source.Client

/-- A receipt event with the clock values its handling draws. -/
inductive ReceiptEvent where
  | messageDelivered (r : ReceiptRequest) (at' : Nat)
  | messageRead (r : ReceiptRequest) (at' now : Nat)
  | conversationRead (r : ReceiptRequest) (at' now : Nat)

namespace ReceiptEvent

def request : ReceiptEvent → ReceiptRequest
  | .messageDelivered r _ => r
  | .messageRead r .. => r
  | .conversationRead r .. => r

def program : ReceiptEvent → ServerProgram Unit
  | .messageDelivered r at' => processMessageDelivered r at'
  | .messageRead r at' now => processMessageRead r at' now
  | .conversationRead r at' now => processConversationRead r at' now

end ReceiptEvent

/-- What the tab does with a socket event. -/
def handleSocketEvent (view : MessagingState) : SocketEvent → MessagingState
  | .receipt name data => handleReceiptEvent view name data
  | _ => view

/-- The tab of `userId` receives what the replicas emit to its user's room for
one broker message. -/
def receiveBrokerMessage (reads : ConsumerReads) (userId : String) (view : MessagingState)
    (published : String × Json) : MessagingState :=
  (deliverMessageToSocketIo reads published.1 published.2).foldl (fun view emission =>
    if emission.room = "user:" ++ userId then handleSocketEvent view emission.event else view) view

/-- The store and the slice of the tab. -/
structure ReceiptView where
  db : Database
  view : MessagingState

/-- One event is handled and the tab folds its fan-outs. -/
def ReceiptView.handle (reads : ConsumerReads) (userId : String) (s : ReceiptView)
    (event : ReceiptEvent) : ReceiptView :=
  let after := (ServerProgram.exec event.program s.db).2
  { db := after
    view := (after.published.drop s.db.published.length).foldl
      (receiveBrokerMessage reads userId) s.view }

section Fold

variable (reads : ConsumerReads) (r : ReceiptRequest) {socketEvent : String} (at' : Nat)

/-- What the fan-out of an event says to the client. -/
def fanoutPayload (r : ReceiptRequest) (at' : Nat) : ReceiptSocketPayload :=
  ⟨EcmaText.trim r.messageId, EcmaText.trim r.conversationId, EcmaText.trim r.actorUserId,
    EcmaDate.toISOString at'⟩

theorem toISOString_nonBlank (ms : Nat) : EcmaText.isNonBlank (EcmaDate.toISOString ms) = true := by
  exact EcmaText.isNonBlank_of_mem (EcmaDate.mem_toISOString ms) (by decide)

theorem routingKey_receipt (user : UserId) :
    parseReceiptRoutingKey ("message.receipt." ++ user.val) = some user.val := by
  have start : MESSAGE_ROUTING_PREFIX ++ ".receipt." = "message.receipt." := by decide
  simp [parseReceiptRoutingKey, routingTarget, start, user.trim_val, user.nonempty]

theorem parseReceiptBrokerPayload_body (named : isReceiptSocketEventName socketEvent = true)
    (pid : String) :
    ∃ skip, parseReceiptBrokerPayload (receiptBody r socketEvent (toFanoutPayload r at') pid) =
      some ⟨socketEvent, .object [("messageId", .string r.messageId),
        ("conversationId", .string r.conversationId), ("userId", .string r.actorUserId),
        ("at", .string (EcmaDate.toISOString at'))], skip⟩ := by
  obtain ⟨extra, shape⟩ : ∃ extra, receiptBody r socketEvent (toFanoutPayload r at') pid =
      .object ([("socketEvent", .string socketEvent), ("data", toFanoutPayload r at')] ++ extra) :=
    ⟨_, rfl⟩
  have kept : Option.filter isReceiptSocketEventName (some socketEvent) = some socketEvent := by
    simp [Option.filter, named]
  refine ⟨nonemptyString (Json.member extra "skipSocketId"), ?_⟩
  rw [shape]
  simp [parseReceiptBrokerPayload, toFanoutPayload, Json.asObject, Json.asString, kept]

/-- The broker message of an event for one participant. -/
def receiptMessage (r : ReceiptRequest) (socketEvent : String) (at' : Nat) (pid : String) :
    String × Json :=
  ("message.receipt." ++ pid, receiptBody r socketEvent (toFanoutPayload r at') pid)

/-- The tab of a participant hears each of its fan-outs once, and no other. -/
theorem receive_receipt (named : isReceiptSocketEventName socketEvent = true) (user : UserId)
    (pid : UserId) (view : MessagingState) :
    receiveBrokerMessage reads user.val view (receiptMessage r socketEvent at' pid.val) =
      if pid.val = user.val then
        handleReceiptEvent view socketEvent (.object [("messageId", .string r.messageId),
          ("conversationId", .string r.conversationId), ("userId", .string r.actorUserId),
          ("at", .string (EcmaDate.toISOString at'))])
      else view := by
  obtain ⟨skip, parsed⟩ := parseReceiptBrokerPayload_body r at' named pid.val
  simp [receiptMessage, receiveBrokerMessage, deliverMessageToSocketIo, routingKey_receipt,
    deliverReceiptToSocketIo, parsed, handleSocketEvent]

/-- The client's kind of a receipt event. -/
def fanoutKind (socketEvent : String) : FanoutKind :=
  if socketEvent = "message:delivered" then .delivered else .seen

theorem handleReceiptEvent_fanout (named : isReceiptSocketEventName socketEvent = true)
    (message : EcmaText.isNonBlank r.messageId = true)
    (conversation : EcmaText.isNonBlank r.conversationId = true)
    (actor : EcmaText.isNonBlank r.actorUserId = true) (view : MessagingState) :
    handleReceiptEvent view socketEvent (.object [("messageId", .string r.messageId),
      ("conversationId", .string r.conversationId), ("userId", .string r.actorUserId),
      ("at", .string (EcmaDate.toISOString at'))]) =
    mergeReceiptFanoutFromSocket view (fanoutPayload r at') (fanoutKind socketEvent) := by
  have parsed : parseReceiptSocketPayload (.object [("messageId", .string r.messageId),
      ("conversationId", .string r.conversationId), ("userId", .string r.actorUserId),
      ("at", .string (EcmaDate.toISOString at'))]) = some (fanoutPayload r at') := by
    simp [parseReceiptSocketPayload, nonBlankMember, Json.asObject, Json.asString, message,
      conversation, actor, toISOString_nonBlank, fanoutPayload, Option.filter]
  unfold handleReceiptEvent
  rw [parsed]
  simp only [isReceiptSocketEventName, Bool.or_eq_true, decide_eq_true_eq] at named
  unfold fanoutKind
  rcases named with (rfl | rfl) | rfl
  · rfl
  · rfl
  · rfl

/-- The fields the tab shows for a message and a user. -/
def viewFields (view : MessagingState) (messageId userId : String) : Bool × Bool :=
  presentFields (view.receiptEntry messageId userId)

theorem mergeReceiptFanout_messages (view : MessagingState) (p : ReceiptSocketPayload)
    (kind : FanoutKind) :
    (mergeReceiptFanoutFromSocket view p kind).messagesById = view.messagesById := by
  unfold mergeReceiptFanoutFromSocket
  split
  · rfl
  · split <;> rfl

/-- A fan-out for a row that is held sets its field of the actor. -/
theorem viewFields_mergeReceiptFanout {view : MessagingState} {p : ReceiptSocketPayload}
    {row : StoredMessage} (held : view.messagesById.get p.messageId = some row)
    (home : row.conversationId = p.conversationId) (kind : FanoutKind) (messageId userId : String) :
    viewFields (mergeReceiptFanoutFromSocket view p kind) messageId userId =
      if messageId = p.messageId ∧ userId = p.userId then
        withField kind (viewFields view messageId userId)
      else viewFields view messageId userId := by
  simp only [mergeReceiptFanoutFromSocket, held, home, ne_eq, not_true, if_false, viewFields,
    MessagingState.receiptEntry, MessagingState.setReceipts, Record.get_set]
  by_cases here : messageId = p.messageId
  · subst here
    simp only [if_true, Option.bind_some, MessageReceiptSummary.entryOf, Record.get_set, true_and]
    by_cases actor : userId = p.userId
    · subst actor
      simp only [if_true]
      rw [presentFields_record]
      cases view.receiptsByMessageId.get p.messageId with
      | none => simp
      | some summary =>
        rw [Option.bind_some, ← MessageReceiptSummary.entryOf, summary.entryOf_getD]
        rfl
    · simp only [actor, if_false]
      cases view.receiptsByMessageId.get p.messageId with
      | none => simp
      | some summary =>
        rw [Option.bind_some, ← MessageReceiptSummary.entryOf, summary.entryOf_getD]
        rfl
  · simp [here]

/-- A stored id: trimmed and not empty. -/
def PlainId (id : String) : Prop := EcmaText.Trimmed id ∧ id ≠ ""

theorem PlainId.isNonBlank {id : String} (plain : PlainId id) : EcmaText.isNonBlank id = true := by
  rw [EcmaText.isNonBlank_iff, show EcmaText.trim id = id from plain.1]
  exact plain.2

/-- What the tab of `user` makes of the fan-out addressed to one participant. -/
theorem receive_fields (named : isReceiptSocketEventName socketEvent = true)
    (message : EcmaText.isNonBlank r.messageId = true) (conversation : PlainId r.conversationId)
    (actor : PlainId r.actorUserId) (user pid : UserId) {view : MessagingState} {row : StoredMessage}
    (held : view.messagesById.get (EcmaText.trim r.messageId) = some row)
    (home : row.conversationId = r.conversationId) :
    (receiveBrokerMessage reads user.val view
        (receiptMessage r socketEvent at' pid.val)).messagesById = view.messagesById ∧
    ∀ messageId userId,
      viewFields (receiveBrokerMessage reads user.val view (receiptMessage r socketEvent at' pid.val))
          messageId userId =
        if pid.val = user.val ∧ messageId = EcmaText.trim r.messageId ∧ userId = r.actorUserId then
          withField (fanoutKind socketEvent) (viewFields view messageId userId)
        else viewFields view messageId userId := by
  have trimmedActor : EcmaText.trim r.actorUserId = r.actorUserId := actor.1
  have trimmedThread : EcmaText.trim r.conversationId = r.conversationId := conversation.1
  have home' : row.conversationId = (fanoutPayload r at').conversationId :=
    home.trans trimmedThread.symm
  have heard := receive_receipt reads r at' named user pid view
  rw [handleReceiptEvent_fanout r at' named message conversation.isNonBlank actor.isNonBlank] at heard
  by_cases same : pid.val = user.val
  · rw [if_pos same] at heard
    rw [heard]
    refine ⟨mergeReceiptFanout_messages _ _ _, fun messageId userId => ?_⟩
    rw [viewFields_mergeReceiptFanout (p := fanoutPayload r at') held home']
    simp only [fanoutPayload, trimmedActor, same, true_and]
  · rw [if_neg same] at heard
    rw [heard]
    exact ⟨rfl, fun messageId userId => by simp only [same, false_and, if_false]⟩

/-- The tab of a participant sets the field of the event, however often it hears it. -/
theorem fold_receiptMessages (named : isReceiptSocketEventName socketEvent = true)
    (message : EcmaText.isNonBlank r.messageId = true) (conversation : PlainId r.conversationId)
    (actor : PlainId r.actorUserId) (user : UserId) {participantIds : List String}
    (plain : ∀ pid ∈ participantIds, PlainId pid) {view : MessagingState} {row : StoredMessage}
    (held : view.messagesById.get (EcmaText.trim r.messageId) = some row)
    (home : row.conversationId = r.conversationId) :
    ((participantIds.map (receiptMessage r socketEvent at')).foldl
        (receiveBrokerMessage reads user.val) view).messagesById = view.messagesById ∧
    ∀ messageId userId,
      viewFields ((participantIds.map (receiptMessage r socketEvent at')).foldl
          (receiveBrokerMessage reads user.val) view) messageId userId =
        if user.val ∈ participantIds ∧ messageId = EcmaText.trim r.messageId ∧
            userId = r.actorUserId then
          withField (fanoutKind socketEvent) (viewFields view messageId userId)
        else viewFields view messageId userId := by
  induction participantIds generalizing view with
  | nil => simp
  | cons pid rest ih =>
    have first := plain pid (by simp)
    obtain ⟨rows, fields⟩ := receive_fields reads r at' named message conversation actor user
      ⟨pid, first.1, first.2⟩ held home
    obtain ⟨rowsRest, fieldsRest⟩ := ih (fun other h => plain other (by simp [h]))
      (by rw [rows]; exact held)
    refine ⟨rowsRest.trans rows, fun messageId userId => (fieldsRest messageId userId).trans ?_⟩
    rw [fields]
    by_cases here : messageId = EcmaText.trim r.messageId ∧ userId = r.actorUserId
    · by_cases same : pid = user.val
      · by_cases later : user.val ∈ rest <;> simp [here, same, later]
      · simp [here, same, Ne.symm same]
    · simp [here]

end Fold

end MessagingSystem.Protocol

import MessagingSystem.Foundation.Json
import MessagingSystem.Source.Client.MessagingSlice

/-!
# Receipts in the web client

The receipt events of `SocketWorkerProvider.tsx` with `socketReceiptPayload.ts`,
the two receipt reducers of `messagingSlice.ts`, the emit guard of
`receiptEmitGuards.ts` and the tick of `messagingSelectors.ts`.
-/
namespace MessagingSystem.Source.Client
open Foundation

structure ReceiptSocketPayload where
  messageId : String
  conversationId : String
  userId : String
  at' : String
  deriving DecidableEq

/-- A string member that is not blank. -/
def nonBlankMember (members : List (String × Json)) (name : String) : Option String :=
  (Json.asString (Json.member members name)).filter EcmaText.isNonBlank

def parseReceiptSocketPayload (input : Json) : Option ReceiptSocketPayload := do
  let o ← Json.asObject (some input)
  let messageId ← nonBlankMember o "messageId"
  let conversationId ← nonBlankMember o "conversationId"
  let userId ← nonBlankMember o "userId"
  let at' ← nonBlankMember o "at"
  some ⟨EcmaText.trim messageId, EcmaText.trim conversationId, EcmaText.trim userId, at'⟩

inductive FanoutKind where
  | delivered | seen
  deriving DecidableEq

/-- `{ ...entry, deliveredAt: at }` or `{ ...entry, seenAt: at }`. -/
def MessageReceiptEntry.record (entry : MessageReceiptEntry) (kind : FanoutKind) (at' : String) :
    MessageReceiptEntry :=
  match kind with
  | .delivered => { entry with deliveredAt := some at' }
  | .seen => { entry with seenAt := some at' }

/-- The entry of a user in a summary. -/
def MessageReceiptSummary.entryOf (summary : MessageReceiptSummary) (userId : String) :
    Option MessageReceiptEntry :=
  summary.receiptsByUserId.bind fun receipts => receipts.get userId

theorem MessageReceiptSummary.entryOf_getD (summary : MessageReceiptSummary) (userId : String) :
    summary.entryOf userId = (summary.receiptsByUserId.getD ∅).get userId := by
  unfold entryOf
  cases summary.receiptsByUserId with
  | none => simp
  | some receipts => rfl

/-- `state.receiptsByMessageId[messageId]?.receiptsByUserId?.[userId]`. -/
def MessagingState.receiptEntry (state : MessagingState) (messageId userId : String) :
    Option MessageReceiptEntry :=
  (state.receiptsByMessageId.get messageId).bind fun summary => summary.entryOf userId

def MessagingState.setReceipts (state : MessagingState) (messageId : String)
    (summary : MessageReceiptSummary) : MessagingState :=
  { state with receiptsByMessageId := state.receiptsByMessageId.set messageId summary }

/-- Merges a Socket.IO receipt fan-out; one for a message that is not held, or
held in another conversation, is ignored. -/
def mergeReceiptFanoutFromSocket (state : MessagingState) (p : ReceiptSocketPayload)
    (kind : FanoutKind) : MessagingState :=
  match state.messagesById.get p.messageId with
  | none => state
  | some msg =>
      if msg.conversationId ≠ p.conversationId then state
      else
        let base : MessageReceiptSummary :=
          (state.receiptsByMessageId.get p.messageId).getD
            ⟨p.messageId, msg.conversationId, msg.createdAt, some ∅⟩
        let receipts := base.receiptsByUserId.getD ∅
        let prevEntry := (receipts.get p.userId).getD ⟨none, none⟩
        state.setReceipts p.messageId { base with
          receiptsByUserId := some (receipts.set p.userId (prevEntry.record kind p.at')) }

/-- `{ ...a, ...b }` of two receipt entries. -/
def mergeEntry (a b : Option MessageReceiptEntry) : MessageReceiptEntry :=
  let a := a.getD ⟨none, none⟩
  let b := b.getD ⟨none, none⟩
  ⟨b.deliveredAt.or a.deliveredAt, b.seenAt.or a.seenAt⟩

def mergeReceiptSummary (existing incoming : MessageReceiptSummary) : MessageReceiptSummary :=
  let a := existing.receiptsByUserId.getD ∅
  let b := incoming.receiptsByUserId.getD ∅
  { incoming with
    receiptsByUserId := some (Record.tabulate (a.names ++ b.names) fun k =>
      mergeEntry (a.get k) (b.get k)) }

/-- The loop body for one fetched summary. -/
def mergeFetchedSummary (cid : String) (state : MessagingState) (item : MessageReceiptSummary) :
    MessagingState :=
  if item.conversationId ≠ cid then state
  else
    state.setReceipts item.messageId
      (match state.receiptsByMessageId.get item.messageId with
        | some prev => mergeReceiptSummary prev item
        | none => item)

def mergeReceiptSummariesFromFetch (state : MessagingState) (conversationId : String)
    (items : List MessageReceiptSummary) : MessagingState :=
  let cid := EcmaText.trim conversationId
  if cid = "" then state else items.foldl (mergeFetchedSummary cid) state

/-- The three receipt cases of the socket worker's messages. -/
def handleReceiptEvent (state : MessagingState) (name : String) (payload : Json) : MessagingState :=
  match parseReceiptSocketPayload payload with
  | none => state
  | some p =>
      if name = "message:delivered" then mergeReceiptFanoutFromSocket state p .delivered
      else if name = "message:read" ∨ name = "conversation:read" then
        mergeReceiptFanoutFromSocket state p .seen
      else state

/-- The guard before `message:read` and `conversation:read`. -/
def currentUserHasSeenMessage (state : MessagingState) (messageId : String)
    (currentUserId : Option String) : Bool :=
  let uid := EcmaText.trim (currentUserId.getD "")
  if uid = "" then false
  else ((state.receiptEntry messageId uid).bind fun e => e.seenAt).any EcmaText.isNonBlank

section Ticks

inductive ReceiptTickState where
  | loading | sent | delivered | seen | unknown
  deriving DecidableEq

inductive ReceiptTickContext where
  | direct (peerUserId : Option String)
  | group (recipientUserIds : List String)

structure GroupReceiptProgress where
  delivered : Nat
  seen : Nat
  total : Nat
  deriving DecidableEq

/-- `!!entry?.deliveredAt` and `!!entry?.seenAt`. -/
def hasDeliveredAt (entry : Option MessageReceiptEntry) : Bool :=
  (entry.bind fun e => e.deliveredAt).any fun at' => at' ≠ ""

def hasSeenAt (entry : Option MessageReceiptEntry) : Bool :=
  (entry.bind fun e => e.seenAt).any fun at' => at' ≠ ""

def countGroupReceipts (entryOf : String → Option MessageReceiptEntry)
    (recipientUserIds : List String) : GroupReceiptProgress where
  delivered := recipientUserIds.countP fun uid => hasDeliveredAt (entryOf uid)
  seen := recipientUserIds.countP fun uid => hasSeenAt (entryOf uid)
  total := recipientUserIds.length

/-- The tick when no receipt decides it. -/
def outboundTick : Option OutboundReceiptLevel → ReceiptTickState
  | some .loading => .loading
  | some .delivered => .delivered
  | some .seen => .seen
  | some .sent => .sent
  | none => .sent

/-- `[...new Set(ids.map((id) => id.trim()).filter(Boolean))]`. -/
def distinctRecipients (recipientUserIds : List String) : List String :=
  IdList.keepFirst ((recipientUserIds.map EcmaText.trim).filter fun id => id ≠ "")

/-- The tick of an own message: `selectOutboundReceiptTickState`. The group
progress shown beside it is left out. -/
def selectOutboundReceiptTickState (state : MessagingState) (messageId currentUserId : String)
    (context : ReceiptTickContext) : ReceiptTickState :=
  match state.messagesById.get messageId with
  | none => .unknown
  | some msg =>
      if msg.senderId ≠ currentUserId then .unknown
      else
        let outbound := state.outboundReceiptByMessageId.get messageId
        if isClientId messageId then .loading
        else
          match context with
          | .direct peerUserId =>
              let peer := EcmaText.trim (peerUserId.getD "")
              let entry := if peer ≠ "" then state.receiptEntry messageId peer else none
              if hasSeenAt entry then .seen
              else if hasDeliveredAt entry then .delivered
              else outboundTick outbound
          | .group recipientUserIds =>
              let counts := countGroupReceipts (state.receiptEntry messageId)
                (distinctRecipients recipientUserIds)
              if counts.total = 0 then outboundTick outbound
              else if counts.seen = counts.total then .seen
              else if counts.delivered = counts.total then .delivered
              else
                match outbound with
                | some .loading => .loading
                | some .sent => .sent
                | none => .sent
                | _ => .unknown

end Ticks

end MessagingSystem.Source.Client

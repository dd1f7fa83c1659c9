import MessagingSystem.Source.Client.MessageReceipts

/-!
# The outbound receipt display

`selectOutboundReceiptDisplay` of `messagingSelectors.ts`: the tick of an own
message with the progress of a group. What it reads of the receipts is whether
a user's entry has `deliveredAt` and `seenAt`.
-/
namespace MessagingSystem.Source.Client
open Foundation

structure OutboundReceiptDisplay where
  state : ReceiptTickState
  groupProgress : Option GroupReceiptProgress
  groupSubtitle : Option String
  deriving DecidableEq

def groupReceiptSubtitle (state : ReceiptTickState) (g : GroupReceiptProgress) : Option String :=
  if g.total ≤ 1 then none
  else if state = .seen then none
  else if g.delivered < g.total then
    some (toString g.delivered ++ "/" ++ toString g.total ++ " delivered")
  else if g.seen < g.total then some (toString g.seen ++ "/" ++ toString g.total ++ " read")
  else none

/-- The tick of a group with at least one recipient. -/
def groupTick (outbound : Option OutboundReceiptLevel) (counts : GroupReceiptProgress) :
    ReceiptTickState :=
  if counts.seen = counts.total then .seen
  else if counts.delivered = counts.total then .delivered
  else
    match outbound with
    | some .loading => .loading
    | some .sent => .sent
    | none => .sent
    | _ => .unknown

/-- The tick in a direct thread, from the entry of the peer. -/
def directTick (outbound : Option OutboundReceiptLevel) (entry : Option MessageReceiptEntry) :
    ReceiptTickState :=
  if hasSeenAt entry then .seen
  else if hasDeliveredAt entry then .delivered
  else outboundTick outbound

def selectOutboundReceiptDisplay (state : MessagingState) (messageId currentUserId : String)
    (context : ReceiptTickContext) : OutboundReceiptDisplay :=
  match state.messagesById.get messageId with
  | none => ⟨.unknown, none, none⟩
  | some msg =>
      if msg.senderId ≠ currentUserId then ⟨.unknown, none, none⟩
      else
        let outbound := state.outboundReceiptByMessageId.get messageId
        if isClientId messageId then ⟨.loading, none, none⟩
        else
          match context with
          | .direct peerUserId =>
              let peer := EcmaText.trim (peerUserId.getD "")
              let entry := if peer ≠ "" then state.receiptEntry messageId peer else none
              ⟨directTick outbound entry, none, none⟩
          | .group recipientUserIds =>
              let counts := countGroupReceipts (state.receiptEntry messageId)
                (distinctRecipients recipientUserIds)
              if counts.total = 0 then ⟨outboundTick outbound, none, none⟩
              else
                let tick := groupTick outbound counts
                ⟨tick, some counts, if 1 < counts.total then groupReceiptSubtitle tick counts else none⟩

/-- `selectOutboundReceiptTickState` is the state of the display. -/
theorem selectOutboundReceiptDisplay_state (state : MessagingState) (messageId currentUserId : String)
    (context : ReceiptTickContext) :
    (selectOutboundReceiptDisplay state messageId currentUserId context).state =
      selectOutboundReceiptTickState state messageId currentUserId context := by
  unfold selectOutboundReceiptDisplay selectOutboundReceiptTickState
  cases state.messagesById.get messageId with
  | none => rfl
  | some msg =>
    dsimp only
    split
    · rfl
    · split
      · rfl
      · cases context with
        | direct peerUserId => rfl
        | group recipientUserIds =>
          dsimp only
          split
          · rfl
          · rfl

section Fields

/-- Whether an entry has the field of the kind. -/
def hasField (kind : FanoutKind) (entry : Option MessageReceiptEntry) : Bool :=
  match kind with
  | .delivered => hasDeliveredAt entry
  | .seen => hasSeenAt entry

/-- The field of the kind, for a user and a message. -/
def MessagingState.shows (state : MessagingState) (messageId userId : String)
    (kind : FanoutKind) : Bool :=
  hasField kind (state.receiptEntry messageId userId)

variable {s t : MessagingState} {messageId : String}

/-- The counts depend on the fields only. -/
theorem countGroupReceipts_congr
    (same : ∀ userId kind, t.shows messageId userId kind = s.shows messageId userId kind)
    (recipients : List String) :
    countGroupReceipts (t.receiptEntry messageId) recipients =
      countGroupReceipts (s.receiptEntry messageId) recipients := by
  have delivered : ∀ userId, hasDeliveredAt (t.receiptEntry messageId userId) =
      hasDeliveredAt (s.receiptEntry messageId userId) := fun userId => same userId .delivered
  have seen : ∀ userId, hasSeenAt (t.receiptEntry messageId userId) =
      hasSeenAt (s.receiptEntry messageId userId) := fun userId => same userId .seen
  simp only [countGroupReceipts, delivered, seen]

theorem directTick_congr {entry entry' : Option MessageReceiptEntry}
    (same : ∀ kind, hasField kind entry' = hasField kind entry)
    (outbound : Option OutboundReceiptLevel) :
    directTick outbound entry' = directTick outbound entry := by
  have delivered : hasDeliveredAt entry' = hasDeliveredAt entry := same .delivered
  have seen : hasSeenAt entry' = hasSeenAt entry := same .seen
  rw [directTick, directTick, delivered, seen]

/-- Stores with the same rows, levels and fields show the same. -/
theorem selectOutboundReceiptDisplay_congr
    (rows : t.messagesById = s.messagesById)
    (levels : t.outboundReceiptByMessageId = s.outboundReceiptByMessageId)
    (same : ∀ userId kind, t.shows messageId userId kind = s.shows messageId userId kind)
    (currentUserId : String) (context : ReceiptTickContext) :
    selectOutboundReceiptDisplay t messageId currentUserId context =
      selectOutboundReceiptDisplay s messageId currentUserId context := by
  unfold selectOutboundReceiptDisplay
  rw [rows, levels]
  cases context with
  | group recipientUserIds => simp only [countGroupReceipts_congr same]
  | direct peerUserId =>
    have entry : ∀ kind, hasField kind
        (if EcmaText.trim (peerUserId.getD "") ≠ "" then
          t.receiptEntry messageId (EcmaText.trim (peerUserId.getD "")) else none) =
        hasField kind (if EcmaText.trim (peerUserId.getD "") ≠ "" then
          s.receiptEntry messageId (EcmaText.trim (peerUserId.getD "")) else none) := by
      intro kind
      split
      · exact same _ kind
      · rfl
    simp only [directTick_congr entry]

end Fields

end MessagingSystem.Source.Client

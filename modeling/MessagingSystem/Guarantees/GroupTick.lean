import MessagingSystem.Guarantees.ReceiptTicks

/-!
# The tick of a group

A group shows `delivered` when every recipient has `deliveredAt`, while the
direct tick takes `seenAt` alone for `seen`. The group tick is the weakest of
the direct ticks except when every recipient has one of the two times, someone
has not seen the message and someone who has seen it has no `deliveredAt`: then
the group stays at `sent`.
-/
namespace MessagingSystem.Guarantees.GroupTick
open Foundation Source.Client ReceiptTicks

/-- The least of the ticks in the order loading, sent, delivered, seen. -/
def IsWeakest (tick : ReceiptTickState) (ticks : List ReceiptTickState) : Prop :=
  tick ∈ ticks ∧ ∀ other ∈ ticks, NotBelow tick other

/-- The ticks that the direct context shows for the recipients; blank ids are none. -/
def memberTicks (s : MessagingState) (messageId currentUserId : String)
    (recipientUserIds : List String) : List ReceiptTickState :=
  (recipientUserIds.filter EcmaText.isNonBlank).map fun recipient =>
    (selectOutboundReceiptDisplay s messageId currentUserId (.direct (some recipient))).state

/-- Everyone has one of the two times, not everyone has seen the message, and
not everyone has `deliveredAt`. -/
structure HeldBack (s : MessagingState) (messageId : String) (recipientUserIds : List String) :
    Prop where
  reached : ∀ userId ∈ distinctRecipients recipientUserIds,
    s.shows messageId userId .delivered = true ∨ s.shows messageId userId .seen = true
  unseen : ∃ userId ∈ distinctRecipients recipientUserIds, s.shows messageId userId .seen = false
  undelivered : ∃ userId ∈ distinctRecipients recipientUserIds,
    s.shows messageId userId .delivered = false

theorem mem_distinctRecipients {recipientUserIds : List String} {userId : String} :
    userId ∈ distinctRecipients recipientUserIds ↔
      ∃ recipient ∈ recipientUserIds.filter EcmaText.isNonBlank,
        EcmaText.trim recipient = userId := by
  rw [distinctRecipients, IdList.mem_keepFirst]
  simp only [List.mem_filter, List.mem_map, decide_eq_true_eq, EcmaText.isNonBlank_iff]
  constructor
  · rintro ⟨⟨recipient, listed, rfl⟩, nonempty⟩
    exact ⟨recipient, ⟨listed, nonempty⟩, rfl⟩
  · rintro ⟨recipient, ⟨listed, nonempty⟩, rfl⟩
    exact ⟨⟨recipient, listed, rfl⟩, nonempty⟩

section Sent

variable {s : MessagingState} {messageId currentUserId : String} {row : StoredMessage}

/-- An own server row that was sent. -/
structure SentRow (s : MessagingState) (messageId currentUserId : String) : Prop where
  own : ∃ row, s.messagesById.get messageId = some row ∧ row.senderId = currentUserId
  server : isClientId messageId = false
  sent : s.outboundReceiptByMessageId.get messageId = some .sent

/-- The direct tick of a row that was sent. -/
def tickOf (s : MessagingState) (messageId userId : String) : ReceiptTickState :=
  if s.shows messageId userId .seen then .seen
  else if s.shows messageId userId .delivered then .delivered
  else .sent

theorem SentRow.direct (sentRow : SentRow s messageId currentUserId) {recipient : String}
    (named : EcmaText.isNonBlank recipient = true) :
    (selectOutboundReceiptDisplay s messageId currentUserId (.direct (some recipient))).state =
      tickOf s messageId (EcmaText.trim recipient) := by
  obtain ⟨row, held, own⟩ := sentRow.own
  have nonempty : EcmaText.trim recipient ≠ "" := EcmaText.isNonBlank_iff.mp named
  simp only [selectOutboundReceiptDisplay, held, own, ne_eq, not_true_eq_false, if_false,
    sentRow.server, Bool.false_eq_true, sentRow.sent, Option.getD_some, if_pos nonempty]
  rfl

theorem SentRow.mem_memberTicks (sentRow : SentRow s messageId currentUserId)
    {recipientUserIds : List String} {tick : ReceiptTickState} :
    tick ∈ memberTicks s messageId currentUserId recipientUserIds ↔
      ∃ userId ∈ distinctRecipients recipientUserIds, tickOf s messageId userId = tick := by
  simp only [memberTicks, List.mem_map, mem_distinctRecipients]
  constructor
  · rintro ⟨recipient, listed, rfl⟩
    exact ⟨_, ⟨recipient, listed, rfl⟩, (sentRow.direct (List.mem_filter.mp listed).2).symm⟩
  · rintro ⟨userId, ⟨recipient, listed, rfl⟩, rfl⟩
    exact ⟨recipient, listed, sentRow.direct (List.mem_filter.mp listed).2⟩

/-- Every recipient has the field of the kind. -/
def allShow (s : MessagingState) (messageId : String) (recipientUserIds : List String)
    (kind : FanoutKind) : Bool :=
  (distinctRecipients recipientUserIds).all fun userId => s.shows messageId userId kind

theorem allShow_eq_false {recipientUserIds : List String} {kind : FanoutKind} :
    allShow s messageId recipientUserIds kind = false ↔
      ∃ userId ∈ distinctRecipients recipientUserIds, s.shows messageId userId kind = false := by
  rw [allShow, List.all_eq_false]
  simp only [Bool.not_eq_true]

/-- The group tick: `seen` when all have seen it, else `delivered` when all have
`deliveredAt`, else `sent`. -/
theorem SentRow.group (sentRow : SentRow s messageId currentUserId) {recipientUserIds : List String}
    (named : distinctRecipients recipientUserIds ≠ []) :
    (selectOutboundReceiptDisplay s messageId currentUserId (.group recipientUserIds)).state =
      if allShow s messageId recipientUserIds .seen then .seen
      else if allShow s messageId recipientUserIds .delivered then .delivered
      else .sent := by
  obtain ⟨row, held, own⟩ := sentRow.own
  have nonzero : ¬ (countGroupReceipts (s.receiptEntry messageId)
      (distinctRecipients recipientUserIds)).total = 0 := fun zero =>
    named (List.eq_nil_of_length_eq_zero zero)
  have seen : (countGroupReceipts (s.receiptEntry messageId)
      (distinctRecipients recipientUserIds)).seen = (countGroupReceipts (s.receiptEntry messageId)
        (distinctRecipients recipientUserIds)).total ↔
      allShow s messageId recipientUserIds .seen = true :=
    List.countP_eq_length.trans List.all_eq_true.symm
  have delivered : (countGroupReceipts (s.receiptEntry messageId)
      (distinctRecipients recipientUserIds)).delivered = (countGroupReceipts
        (s.receiptEntry messageId) (distinctRecipients recipientUserIds)).total ↔
      allShow s messageId recipientUserIds .delivered = true :=
    List.countP_eq_length.trans List.all_eq_true.symm
  simp only [selectOutboundReceiptDisplay, held, own, ne_eq, not_true_eq_false, if_false,
    sentRow.server, Bool.false_eq_true, sentRow.sent, if_neg nonzero, groupTick, seen, delivered]

/-- Held back or not, by the two sets of recipients. -/
theorem heldBack_iff {recipientUserIds : List String} : HeldBack s messageId recipientUserIds ↔
    (∀ userId ∈ distinctRecipients recipientUserIds,
      s.shows messageId userId .delivered = true ∨ s.shows messageId userId .seen = true) ∧
    allShow s messageId recipientUserIds .seen = false ∧
    allShow s messageId recipientUserIds .delivered = false := by
  rw [allShow_eq_false, allShow_eq_false]
  exact ⟨fun held => ⟨held.reached, held.unseen, held.undelivered⟩,
    fun held => ⟨held.1, held.2.1, held.2.2⟩⟩

theorem sent_notBelow (userId : String) : NotBelow .sent (tickOf s messageId userId) := by
  unfold tickOf NotBelow
  split
  · simp [rank]
  · split <;> simp [rank]

/-- `seen` is the weakest tick when everyone has seen the message. -/
theorem SentRow.weakest_seen (sentRow : SentRow s messageId currentUserId)
    {recipientUserIds : List String} (named : distinctRecipients recipientUserIds ≠ [])
    (all : allShow s messageId recipientUserIds .seen = true) :
    IsWeakest .seen (memberTicks s messageId currentUserId recipientUserIds) := by
  have ticks : ∀ userId ∈ distinctRecipients recipientUserIds,
      tickOf s messageId userId = .seen := fun userId listed =>
    if_pos (List.all_eq_true.mp all userId listed)
  obtain ⟨first, listed⟩ := List.exists_mem_of_ne_nil _ named
  refine ⟨sentRow.mem_memberTicks.mpr ⟨first, listed, ticks first listed⟩, ?_⟩
  intro other member
  obtain ⟨userId, listed, rfl⟩ := sentRow.mem_memberTicks.mp member
  rw [ticks userId listed]
  exact .inl rfl

/-- `delivered` is the weakest tick when everyone is reached and someone has not seen it. -/
theorem SentRow.weakest_delivered (sentRow : SentRow s messageId currentUserId)
    {recipientUserIds : List String}
    (reached : ∀ userId ∈ distinctRecipients recipientUserIds,
      s.shows messageId userId .delivered = true ∨ s.shows messageId userId .seen = true)
    (unseen : allShow s messageId recipientUserIds .seen = false) :
    IsWeakest .delivered (memberTicks s messageId currentUserId recipientUserIds) := by
  constructor
  · obtain ⟨userId, listed, notSeen⟩ := allShow_eq_false.mp unseen
    refine sentRow.mem_memberTicks.mpr ⟨userId, listed, ?_⟩
    rcases reached userId listed with delivered | seen
    · simp [tickOf, notSeen, delivered]
    · simp [notSeen] at seen
  · intro other member
    obtain ⟨userId, listed, rfl⟩ := sentRow.mem_memberTicks.mp member
    rcases reached userId listed with delivered | seen
    · unfold tickOf NotBelow
      rw [delivered]
      split <;> simp [rank]
    · simp [tickOf, seen, NotBelow, rank]

/-- `sent` is the weakest tick exactly when someone has neither time. -/
theorem SentRow.weakest_sent (sentRow : SentRow s messageId currentUserId)
    {recipientUserIds : List String} :
    IsWeakest .sent (memberTicks s messageId currentUserId recipientUserIds) ↔
      ∃ userId ∈ distinctRecipients recipientUserIds,
        s.shows messageId userId .delivered = false ∧ s.shows messageId userId .seen = false := by
  constructor
  · rintro ⟨member, -⟩
    obtain ⟨userId, listed, tick⟩ := sentRow.mem_memberTicks.mp member
    refine ⟨userId, listed, ?_⟩
    unfold tickOf at tick
    cases seen : s.shows messageId userId .seen with
    | true => simp [seen] at tick
    | false =>
      cases delivered : s.shows messageId userId .delivered with
      | true => simp [seen, delivered] at tick
      | false => exact ⟨rfl, rfl⟩
  · rintro ⟨userId, listed, notDelivered, notSeen⟩
    refine ⟨sentRow.mem_memberTicks.mpr ⟨userId, listed, by simp [tickOf, notDelivered, notSeen]⟩, ?_⟩
    intro other member
    obtain ⟨userId, -, rfl⟩ := sentRow.mem_memberTicks.mp member
    exact sent_notBelow userId

end Sent

/-- The group tick is the weakest of the direct ticks exactly when the group is
not held back; a group held back shows `sent` where the weakest is `delivered`. -/
theorem group_tick_weakest_iff (s : MessagingState) (messageId currentUserId : String)
    (sentRow : SentRow s messageId currentUserId) (recipientUserIds : List String)
    (named : ∃ recipient ∈ recipientUserIds, EcmaText.isNonBlank recipient = true) :
    (IsWeakest
        (selectOutboundReceiptDisplay s messageId currentUserId (.group recipientUserIds)).state
        (memberTicks s messageId currentUserId recipientUserIds) ↔
      ¬ HeldBack s messageId recipientUserIds) ∧
    (HeldBack s messageId recipientUserIds →
      (selectOutboundReceiptDisplay s messageId currentUserId (.group recipientUserIds)).state =
          .sent ∧
        IsWeakest .delivered (memberTicks s messageId currentUserId recipientUserIds)) := by
  have some : distinctRecipients recipientUserIds ≠ [] := by
    obtain ⟨recipient, listed, nonBlank⟩ := named
    have member : EcmaText.trim recipient ∈ distinctRecipients recipientUserIds :=
      mem_distinctRecipients.mpr ⟨recipient, List.mem_filter.mpr ⟨listed, nonBlank⟩, rfl⟩
    exact List.ne_nil_of_mem member
  rw [sentRow.group some, heldBack_iff]
  cases seen : allShow s messageId recipientUserIds .seen with
  | true => exact ⟨by simp [sentRow.weakest_seen some seen], by simp⟩
  | false =>
    cases delivered : allShow s messageId recipientUserIds .delivered with
    | true =>
      have reached : ∀ userId ∈ distinctRecipients recipientUserIds,
          s.shows messageId userId .delivered = true ∨ s.shows messageId userId .seen = true :=
        fun userId listed => .inl (List.all_eq_true.mp delivered userId listed)
      exact ⟨by simp [sentRow.weakest_delivered reached seen], by simp⟩
    | false =>
      constructor
      · simp only [Bool.false_eq_true, if_false, and_true, sentRow.weakest_sent]
        constructor
        · rintro ⟨userId, listed, notDelivered, notSeen⟩ reached
          rcases reached userId listed with held | held
          · simp [notDelivered] at held
          · simp [notSeen] at held
        · intro notReached
          by_contra none
          apply notReached
          intro userId listed
          cases held : s.shows messageId userId .delivered with
          | true => exact .inl rfl
          | false =>
            cases held' : s.shows messageId userId .seen with
            | true => exact .inr rfl
            | false => exact absurd ⟨userId, listed, held, held'⟩ none
      · rintro ⟨reached, -⟩
        exact ⟨rfl, sentRow.weakest_delivered reached seen⟩

section Run

/-- One member has read the message without a delivery receipt, the other has
received it. -/
def readAndReceived : MessagingState :=
  storeAfter [.thread (.appendIncomingMessageIfNew ownRow (some "u-1")),
    .receipts (.mergeReceiptFanoutFromSocket ⟨"m-1", "c-1", "u-2", "2026-04-01T12:00:02.000Z"⟩ .seen),
    .receipts (.mergeReceiptFanoutFromSocket ⟨"m-1", "c-1", "u-3", "2026-04-01T12:00:03.000Z"⟩
      .delivered)]

/-- The group shows `sent`, the members show `seen` and `delivered`. -/
theorem read_counts_as_undelivered :
    (selectOutboundReceiptDisplay readAndReceived "m-1" "u-1" (.group ["u-2", "u-3"])).state = .sent ∧
      memberTicks readAndReceived "m-1" "u-1" ["u-2", "u-3"] = [.seen, .delivered] ∧
      ¬ IsWeakest
        (selectOutboundReceiptDisplay readAndReceived "m-1" "u-1" (.group ["u-2", "u-3"])).state
        (memberTicks readAndReceived "m-1" "u-1" ["u-2", "u-3"]) := by
  have shown : (selectOutboundReceiptDisplay readAndReceived "m-1" "u-1"
      (.group ["u-2", "u-3"])).state = .sent := by decide
  have ticks : memberTicks readAndReceived "m-1" "u-1" ["u-2", "u-3"] = [.seen, .delivered] := by
    decide
  refine ⟨shown, ticks, ?_⟩
  rw [shown, ticks]
  rintro ⟨member, -⟩
  exact absurd member (by decide)

theorem readAndReceived_sent : SentRow readAndReceived "m-1" "u-1" where
  own := ⟨ownRow.toStored, by decide, rfl⟩
  server := by decide
  sent := by decide

/-- A single member who has read the message without a delivery receipt. -/
theorem group_tick_weakest_iff_single :
    IsWeakest (selectOutboundReceiptDisplay readAndReceived "m-1" "u-1" (.group ["u-2"])).state
      (memberTicks readAndReceived "m-1" "u-1" ["u-2"]) := by
  apply (group_tick_weakest_iff readAndReceived "m-1" "u-1" readAndReceived_sent ["u-2"]
    ⟨"u-2", by decide, by decide⟩).1.mpr
  intro heldBack
  exact absurd (heldBack_iff.mp heldBack).2.1 (by decide)

end Run

end MessagingSystem.Guarantees.GroupTick

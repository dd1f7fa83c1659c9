import MessagingSystem.Source.Client.MessagingSelectors
import MessagingSystem.Source.Client.MessagingStore
import MessagingSystem.Source.Server.ReceiptSummary

/-!
# Ticks only go up

What the display of an own message reads of the receipts is, for every user,
whether `deliveredAt` and `seenAt` are there. A merge adds to these fields what
it records and removes none, so a run of merges ends with the fields of the
start and those of its merges, in whatever order they came.
-/
namespace MessagingSystem.Guarantees.ReceiptTicks
open Foundation Source.Client Source.Server

/-- The times of an entry are date-times, not empty texts. -/
def TimedEntry (entry : MessageReceiptEntry) : Prop :=
  entry.deliveredAt ≠ some "" ∧ entry.seenAt ≠ some ""

def TimedSummary (item : MessageReceiptSummary) : Prop :=
  ∀ userId entry, item.entryOf userId = some entry → TimedEntry entry

/-- The times that a merge brings are date-times. -/
def Timed : ReceiptMerge → Prop
  | .mergeReceiptFanoutFromSocket payload _ => payload.at' ≠ ""
  | .mergeReceiptSummariesFromFetch _ items => ∀ item ∈ items, TimedSummary item

/-- A fan-out that the socket handler parsed is timed. -/
theorem timed_of_parsed {input : Json} {payload : ReceiptSocketPayload}
    (parsed : parseReceiptSocketPayload input = some payload) (kind : FanoutKind) :
    Timed (.mergeReceiptFanoutFromSocket payload kind) := by
  have nonBlank : ∀ {members : List (String × Json)} {text : String},
      nonBlankMember members "at" = some text → text ≠ "" := by
    rintro members text held rfl
    have kept := Option.filter_eq_some_iff.mp held
    exact absurd kept.2 (by decide)
  simp only [parseReceiptSocketPayload, bind, Option.bind_eq_some_iff] at parsed
  obtain ⟨members, -, messageId, -, conversationId, -, userId, -, at', held, same⟩ := parsed
  cases same
  exact nonBlank held

/-- A summary that the service answers is timed. -/
theorem timedSummary_of_api (row : MessageDocument) : TimedSummary (messageReceiptSummaryToApi row) := by
  intro userId entry held
  rw [entryOf_messageReceiptSummaryToApi] at held
  obtain ⟨stored, -, rfl⟩ := Option.map_eq_some_iff.mp held
  have filled : ∀ at' : Option Nat, at'.map EcmaDate.toISOString ≠ some "" := by
    intro at' same
    obtain ⟨ms, -, empty⟩ := Option.map_eq_some_iff.mp same
    have letter := EcmaDate.mem_toISOString ms
    rw [empty] at letter
    exact absurd letter (by decide)
  exact ⟨filled stored.deliveredAt, filled stored.seenAt⟩

section Fields

variable {s : MessagingState}

theorem receiptEntry_setReceipts (s : MessagingState) (id messageId userId : String)
    (summary : MessageReceiptSummary) :
    (s.setReceipts id summary).receiptEntry messageId userId =
      if messageId = id then summary.entryOf userId else s.receiptEntry messageId userId := by
  unfold MessagingState.receiptEntry MessagingState.setReceipts
  rw [Record.get_set]
  split
  · rfl
  · rfl

/-- A time that is not empty is there. -/
theorem hasField_record (entry : MessageReceiptEntry) (kind kind' : FanoutKind) {at' : String}
    (timed : at' ≠ "") :
    hasField kind (some (entry.record kind' at')) =
      (hasField kind (some entry) || decide (kind = kind')) := by
  cases kind <;> cases kind' <;>
    simp [hasField, hasDeliveredAt, hasSeenAt, MessageReceiptEntry.record, timed]

/-- An entry that is missing has the fields of an empty one. -/
theorem hasField_getD (kind : FanoutKind) (entry : Option MessageReceiptEntry) :
    hasField kind (some (entry.getD ⟨none, none⟩)) = hasField kind entry := by
  cases entry with
  | none => cases kind <;> rfl
  | some entry => rfl

theorem hasField_mergeEntry (kind : FanoutKind) (a b : Option MessageReceiptEntry)
    (timed : ∀ entry, b = some entry → TimedEntry entry) :
    hasField kind (some (mergeEntry a b)) = (hasField kind a || hasField kind b) := by
  rw [← hasField_getD kind a, ← hasField_getD kind b]
  have times : TimedEntry (b.getD ⟨none, none⟩) := by
    cases b with
    | none => exact ⟨by simp, by simp⟩
    | some entry => exact timed entry rfl
  obtain ⟨delivered, seen⟩ := times
  unfold mergeEntry
  dsimp only
  generalize b.getD ⟨none, none⟩ = b at *
  cases kind with
  | delivered =>
    cases held : b.deliveredAt with
    | none => simp [hasField, hasDeliveredAt, held]
    | some at' =>
      have filled : at' ≠ "" := fun empty => delivered (held.trans (congrArg some empty))
      simp [hasField, hasDeliveredAt, held, filled]
  | seen =>
    cases held : b.seenAt with
    | none => simp [hasField, hasSeenAt, held]
    | some at' =>
      have filled : at' ≠ "" := fun empty => seen (held.trans (congrArg some empty))
      simp [hasField, hasSeenAt, held, filled]

/-- A merged summary has the fields of both. -/
theorem hasField_mergeReceiptSummary (kind : FanoutKind) (existing incoming : MessageReceiptSummary)
    (timed : TimedSummary incoming) (userId : String) :
    hasField kind ((mergeReceiptSummary existing incoming).entryOf userId) =
      (hasField kind (existing.entryOf userId) || hasField kind (incoming.entryOf userId)) := by
  have merged : (mergeReceiptSummary existing incoming).entryOf userId =
      if userId ∈ (existing.receiptsByUserId.getD ∅).names ++
          (incoming.receiptsByUserId.getD ∅).names then
        some (mergeEntry (existing.entryOf userId) (incoming.entryOf userId)) else none := by
    rw [existing.entryOf_getD, incoming.entryOf_getD]
    exact Record.get_tabulate _ _ _
  rw [merged]
  split
  · exact hasField_mergeEntry kind _ _ (timed userId)
  · rename_i absent
    rw [List.mem_append, Record.mem_names, Record.mem_names, ← existing.entryOf_getD,
      ← incoming.entryOf_getD, not_or, Bool.not_eq_true, Bool.not_eq_true, Option.isSome_eq_false_iff,
      Option.isSome_eq_false_iff, Option.isNone_iff_eq_none, Option.isNone_iff_eq_none] at absent
    rw [absent.1, absent.2]
    cases kind <;> rfl

end Fields

section Run

/-- The field of the user that a merge records for the message. -/
def records (rows : Record StoredMessage) (messageId userId : String) (kind : FanoutKind) :
    ReceiptMerge → Bool
  | .mergeReceiptFanoutFromSocket payload kind' =>
      decide (payload.messageId = messageId ∧ payload.userId = userId ∧ kind = kind') &&
        (rows.get messageId).any fun row => row.conversationId = payload.conversationId
  | .mergeReceiptSummariesFromFetch conversationId items =>
      decide (EcmaText.trim conversationId ≠ "") && items.any fun item =>
        decide (item.conversationId = EcmaText.trim conversationId ∧ item.messageId = messageId) &&
          hasField kind (item.entryOf userId)

theorem shows_fanout (s : MessagingState) (payload : ReceiptSocketPayload) (kind' : FanoutKind)
    (timed : payload.at' ≠ "") (messageId userId : String) (kind : FanoutKind) :
    (mergeReceiptFanoutFromSocket s payload kind').shows messageId userId kind =
      (s.shows messageId userId kind || records s.messagesById messageId userId kind
        (.mergeReceiptFanoutFromSocket payload kind')) := by
  unfold MessagingState.shows records mergeReceiptFanoutFromSocket
  cases held : s.messagesById.get payload.messageId with
  | none =>
    by_cases here : payload.messageId = messageId
    · simp [here ▸ held]
    · simp [here]
  | some row =>
    dsimp only
    by_cases home : row.conversationId = payload.conversationId
    · rw [if_neg (not_not.mpr home), receiptEntry_setReceipts]
      by_cases here : messageId = payload.messageId
      · subst here
        -- the summary the entry is written into has the entries shown before
        have base : ∀ user, (((s.receiptsByMessageId.get payload.messageId).getD
            ⟨payload.messageId, row.conversationId, row.createdAt, some ∅⟩).receiptsByUserId.getD
              ∅).get user = s.receiptEntry payload.messageId user := by
          intro user
          rw [← MessageReceiptSummary.entryOf_getD]
          unfold MessagingState.receiptEntry
          cases s.receiptsByMessageId.get payload.messageId with
          | none => simp [MessageReceiptSummary.entryOf]
          | some summary => rfl
        rw [if_pos rfl, MessageReceiptSummary.entryOf, Option.bind_some, Record.get_set, held]
        by_cases actor : userId = payload.userId
        · rw [if_pos actor, hasField_record _ _ _ timed, base, hasField_getD]
          simp [actor, home]
        · rw [if_neg actor, base]
          simp [Ne.symm actor]
      · simp [here, Ne.symm here]
    · rw [if_pos home]
      by_cases here : payload.messageId = messageId
      · simp [← here, held, home]
      · simp [here]

theorem shows_fetchedSummary (s : MessagingState) (cid : String) (item : MessageReceiptSummary)
    (timed : TimedSummary item) (messageId userId : String) (kind : FanoutKind) :
    (mergeFetchedSummary cid s item).shows messageId userId kind =
      (s.shows messageId userId kind ||
        (decide (item.conversationId = cid ∧ item.messageId = messageId) &&
          hasField kind (item.entryOf userId))) := by
  unfold mergeFetchedSummary MessagingState.shows
  by_cases home : item.conversationId = cid
  · rw [if_neg (not_not.mpr home), receiptEntry_setReceipts]
    by_cases here : messageId = item.messageId
    · subst here
      rw [if_pos rfl, decide_eq_true (show _ ∧ _ from ⟨home, rfl⟩), Bool.true_and]
      unfold MessagingState.receiptEntry
      cases s.receiptsByMessageId.get item.messageId with
      | none => cases kind <;> simp [hasField, hasDeliveredAt, hasSeenAt]
      | some previous => exact hasField_mergeReceiptSummary kind previous item timed userId
    · simp [here, Ne.symm here]
  · simp [home]

theorem shows_fetched (cid : String) (items : List MessageReceiptSummary)
    (timed : ∀ item ∈ items, TimedSummary item) (s : MessagingState) (messageId userId : String)
    (kind : FanoutKind) :
    (items.foldl (mergeFetchedSummary cid) s).shows messageId userId kind =
      (s.shows messageId userId kind || items.any fun item =>
        decide (item.conversationId = cid ∧ item.messageId = messageId) &&
          hasField kind (item.entryOf userId)) := by
  induction items generalizing s with
  | nil => simp
  | cons item rest ih =>
    rw [List.foldl_cons, ih (fun later member => timed later (List.mem_cons_of_mem _ member)),
      shows_fetchedSummary s cid item (timed item List.mem_cons_self), List.any_cons, Bool.or_assoc]

/-- One merge adds the fields it records and removes none. -/
theorem shows_mergeReceipts (s : MessagingState) {merge : ReceiptMerge} (timed : Timed merge)
    (messageId userId : String) (kind : FanoutKind) :
    (mergeReceipts s merge).shows messageId userId kind =
      (s.shows messageId userId kind || records s.messagesById messageId userId kind merge) := by
  cases merge with
  | mergeReceiptFanoutFromSocket payload kind' =>
    exact shows_fanout s payload kind' timed messageId userId kind
  | mergeReceiptSummariesFromFetch conversationId items =>
    unfold mergeReceipts mergeReceiptSummariesFromFetch records
    dsimp only
    by_cases blank : EcmaText.trim conversationId = ""
    · simp [blank]
    · rw [if_neg blank, shows_fetched _ items timed, decide_eq_true blank, Bool.true_and]

/-- The store after a sequence of merges. -/
def afterMerges (s : MessagingState) (merges : List ReceiptMerge) : MessagingState :=
  merges.foldl mergeReceipts s

theorem afterMerges_frame (s : MessagingState) (merges : List ReceiptMerge) :
    (afterMerges s merges).messagesById = s.messagesById ∧
      (afterMerges s merges).outboundReceiptByMessageId = s.outboundReceiptByMessageId := by
  unfold afterMerges
  induction merges generalizing s with
  | nil => exact ⟨rfl, rfl⟩
  | cons merge rest ih =>
    obtain ⟨rows, levels⟩ := ih (mergeReceipts s merge)
    obtain ⟨rows', levels'⟩ := mergeReceipts_frame s merge
    exact ⟨rows.trans rows', levels.trans levels'⟩

/-- A run of merges adds the fields that one of them records. -/
theorem shows_afterMerges (s : MessagingState) {merges : List ReceiptMerge}
    (timed : ∀ merge ∈ merges, Timed merge) (messageId userId : String) (kind : FanoutKind) :
    (afterMerges s merges).shows messageId userId kind =
      (s.shows messageId userId kind ||
        merges.any (records s.messagesById messageId userId kind)) := by
  unfold afterMerges
  induction merges generalizing s with
  | nil => simp
  | cons merge rest ih =>
    rw [List.foldl_cons, ih (mergeReceipts s merge) (fun later member =>
      timed later (List.mem_cons_of_mem _ member)), (mergeReceipts_frame s merge).1,
      shows_mergeReceipts s (timed merge List.mem_cons_self), List.any_cons, Bool.or_assoc]

/-- Merges in another order show the same. -/
theorem display_perm (s : MessagingState) {merges permuted : List ReceiptMerge}
    (timed : ∀ merge ∈ merges, Timed merge) (perm : merges.Perm permuted)
    (messageId currentUserId : String) (context : ReceiptTickContext) :
    selectOutboundReceiptDisplay (afterMerges s permuted) messageId currentUserId context =
      selectOutboundReceiptDisplay (afterMerges s merges) messageId currentUserId context := by
  obtain ⟨rows, levels⟩ := afterMerges_frame s merges
  obtain ⟨rows', levels'⟩ := afterMerges_frame s permuted
  apply selectOutboundReceiptDisplay_congr (rows'.trans rows.symm) (levels'.trans levels.symm)
  intro userId kind
  rw [shows_afterMerges s timed, shows_afterMerges s fun merge member =>
    timed merge (perm.mem_iff.mpr member), perm.any_eq]

end Run

section Order

/-- The place of a tick in the order loading, sent, delivered, seen. -/
def rank : ReceiptTickState → Option Nat
  | .loading => some 0
  | .sent => some 1
  | .delivered => some 2
  | .seen => some 3
  | .unknown => none

/-- The tick stays, or goes up in the order. -/
def NotBelow (before after : ReceiptTickState) : Prop :=
  before = after ∨ ∃ i j, rank before = some i ∧ rank after = some j ∧ i ≤ j

/-- A level that the store gives to a row. -/
def Early (outbound : Option OutboundReceiptLevel) : Prop :=
  ∀ level, outbound = some level → level = .loading ∨ level = .sent

variable {outbound : Option OutboundReceiptLevel}

theorem Early.cases (early : Early outbound) :
    outbound = none ∨ outbound = some .loading ∨ outbound = some .sent := by
  cases outbound with
  | none => exact .inl rfl
  | some level =>
    rcases early level rfl with rfl | rfl
    · exact .inr (.inl rfl)
    · exact .inr (.inr rfl)

theorem directTick_notBelow (early : Early outbound) {entry entry' : Option MessageReceiptEntry}
    (more : ∀ kind, hasField kind entry = true → hasField kind entry' = true) :
    NotBelow (directTick outbound entry) (directTick outbound entry') := by
  have delivered : hasDeliveredAt entry = true → hasDeliveredAt entry' = true := more .delivered
  have seen : hasSeenAt entry = true → hasSeenAt entry' = true := more .seen
  unfold directTick NotBelow
  cases h1 : hasSeenAt entry with
  | true => simp [seen h1]
  | false =>
    cases h2 : hasDeliveredAt entry with
    | true => cases hasSeenAt entry' <;> simp [delivered h2, rank]
    | false =>
      rcases early.cases with rfl | rfl | rfl
      · cases hasSeenAt entry' <;> cases hasDeliveredAt entry' <;> simp [rank, outboundTick]
      · cases hasSeenAt entry' <;> cases hasDeliveredAt entry' <;> simp [rank, outboundTick]
      · cases hasSeenAt entry' <;> cases hasDeliveredAt entry' <;> simp [rank, outboundTick]

theorem groupTick_notBelow (early : Early outbound) {counts counts' : GroupReceiptProgress}
    (total : counts'.total = counts.total) (delivered : counts.delivered ≤ counts'.delivered)
    (seen : counts.seen ≤ counts'.seen) (deliveredMost : counts'.delivered ≤ counts'.total)
    (seenMost : counts'.seen ≤ counts'.total) :
    NotBelow (groupTick outbound counts) (groupTick outbound counts') := by
  unfold groupTick NotBelow
  by_cases allSeen : counts.seen = counts.total
  · rw [if_pos allSeen, if_pos (by omega : counts'.seen = counts'.total)]
    exact .inl rfl
  · rw [if_neg allSeen]
    by_cases allDelivered : counts.delivered = counts.total
    · rw [if_pos allDelivered]
      have all : counts'.delivered = counts'.total := by omega
      by_cases allSeen' : counts'.seen = counts'.total
      · simp [allSeen', rank]
      · simp [allSeen', all]
    · rw [if_neg allDelivered]
      by_cases allSeen' : counts'.seen = counts'.total
      · rcases early.cases with rfl | rfl | rfl <;> simp [allSeen', rank]
      · by_cases allDelivered' : counts'.delivered = counts'.total
        · rcases early.cases with rfl | rfl | rfl <;> simp [allSeen', allDelivered', rank]
        · simp [allSeen', allDelivered']

theorem countGroupReceipts_le {entryOf entryOf' : String → Option MessageReceiptEntry}
    (more : ∀ userId kind, hasField kind (entryOf userId) = true →
      hasField kind (entryOf' userId) = true) (recipients : List String) :
    (countGroupReceipts entryOf recipients).delivered ≤
        (countGroupReceipts entryOf' recipients).delivered ∧
      (countGroupReceipts entryOf recipients).seen ≤
        (countGroupReceipts entryOf' recipients).seen :=
  ⟨List.countP_mono_left fun userId _ held => more userId .delivered held,
    List.countP_mono_left fun userId _ held => more userId .seen held⟩

/-- More fields do not lower the tick. -/
theorem display_notBelow {s t : MessagingState} {messageId : String}
    (early : Early (s.outboundReceiptByMessageId.get messageId))
    (rows : t.messagesById = s.messagesById)
    (levels : t.outboundReceiptByMessageId = s.outboundReceiptByMessageId)
    (more : ∀ userId kind, s.shows messageId userId kind = true →
      t.shows messageId userId kind = true)
    (currentUserId : String) (context : ReceiptTickContext) :
    NotBelow (selectOutboundReceiptDisplay s messageId currentUserId context).state
      (selectOutboundReceiptDisplay t messageId currentUserId context).state := by
  unfold selectOutboundReceiptDisplay
  rw [rows, levels]
  cases s.messagesById.get messageId with
  | none => exact .inl rfl
  | some msg =>
    dsimp only
    split
    · exact .inl rfl
    · split
      · exact .inl rfl
      · cases context with
        | direct peerUserId =>
          dsimp only
          apply directTick_notBelow early
          intro kind held
          split at held
          · rename_i named
            rw [if_pos named]
            exact more _ kind held
          · cases kind <;> cases held
        | group recipientUserIds =>
          have counts := countGroupReceipts_le more (distinctRecipients recipientUserIds)
          have total : ∀ entryOf : String → Option MessageReceiptEntry,
              (countGroupReceipts entryOf (distinctRecipients recipientUserIds)).total =
                (distinctRecipients recipientUserIds).length := fun _ => rfl
          dsimp only
          by_cases empty : (distinctRecipients recipientUserIds).length = 0
          · rw [if_pos ((total _).trans empty), if_pos ((total _).trans empty)]
            exact .inl rfl
          · rw [if_neg fun none => empty ((total _).symm.trans none),
              if_neg fun none => empty ((total _).symm.trans none)]
            exact groupTick_notBelow early rfl counts.1 counts.2 List.countP_le_length
              List.countP_le_length

end Order

/-- In every store that actions lead to, merges of receipts never lower the
tick of a message, and merges in another order end with the same display. -/
theorem ticks_monotone_and_order_free (actions : List StoreAction)
    (messageId currentUserId : String) (context : ReceiptTickContext) (merges : List ReceiptMerge)
    (timed : ∀ merge ∈ merges, Timed merge) :
    (∀ earlier later rest, merges = earlier ++ later ++ rest →
      NotBelow
        (selectOutboundReceiptDisplay (afterMerges (storeAfter actions) earlier) messageId
          currentUserId context).state
        (selectOutboundReceiptDisplay (afterMerges (storeAfter actions) (earlier ++ later)) messageId
          currentUserId context).state) ∧
    ∀ permuted, merges.Perm permuted →
      selectOutboundReceiptDisplay (afterMerges (storeAfter actions) permuted) messageId
          currentUserId context =
        selectOutboundReceiptDisplay (afterMerges (storeAfter actions) merges) messageId
          currentUserId context := by
  constructor
  · rintro earlier later rest rfl
    obtain ⟨rows, levels⟩ := afterMerges_frame (storeAfter actions) earlier
    obtain ⟨rows', levels'⟩ := afterMerges_frame (storeAfter actions) (earlier ++ later)
    have timedEarlier : ∀ merge ∈ earlier, Timed merge := fun merge member =>
      timed merge (List.mem_append_left _ (List.mem_append_left _ member))
    have timedBoth : ∀ merge ∈ earlier ++ later, Timed merge := fun merge member =>
      timed merge (List.mem_append_left _ member)
    apply display_notBelow
    · rw [levels]
      exact storeAfter_levels actions messageId
    · exact rows'.trans rows.symm
    · exact levels'.trans levels.symm
    · intro userId kind held
      rw [shows_afterMerges _ timedEarlier] at held
      rw [shows_afterMerges _ timedBoth, List.any_append]
      simp only [Bool.or_eq_true] at held ⊢
      rcases held with before | recorded
      · exact .inl before
      · exact .inr (.inl recorded)
  · intro permuted perm
    exact display_perm (storeAfter actions) timed perm messageId currentUserId context

section Run

/-- An own message that is in the store. -/
def ownRow : Message where
  id := "m-1"
  conversationId := "c-1"
  senderId := "u-1"
  createdAt := "2026-04-01T12:00:00.000Z"

/-- The peer reads the message, and the fetched summary brings the delivery later. -/
def readThenFetched : List ReceiptMerge :=
  [.mergeReceiptFanoutFromSocket ⟨"m-1", "c-1", "u-2", "2026-04-01T12:00:02.000Z"⟩ .seen,
    .mergeReceiptSummariesFromFetch "c-1" [⟨"m-1", "c-1", "2026-04-01T12:00:00.000Z", none⟩]]

theorem readThenFetched_timed : ∀ merge ∈ readThenFetched, Timed merge := by
  intro merge member
  simp only [readThenFetched, List.mem_cons, List.not_mem_nil, or_false] at member
  rcases member with rfl | rfl
  · exact show _ ≠ _ by decide
  · intro item listed userId entry held
    rw [List.mem_singleton] at listed
    subst listed
    cases held

theorem ticks_monotone_and_order_free_read :
    NotBelow
      (selectOutboundReceiptDisplay (afterMerges (storeAfter
        [.thread (.appendIncomingMessageIfNew ownRow (some "u-1"))]) []) "m-1" "u-1"
          (.direct (some "u-2"))).state
      (selectOutboundReceiptDisplay (afterMerges (storeAfter
        [.thread (.appendIncomingMessageIfNew ownRow (some "u-1"))]) readThenFetched) "m-1" "u-1"
          (.direct (some "u-2"))).state :=
  (ticks_monotone_and_order_free [.thread (.appendIncomingMessageIfNew ownRow (some "u-1"))] "m-1"
    "u-1" (.direct (some "u-2")) readThenFetched readThenFetched_timed).1 [] readThenFetched [] rfl

end Run

end MessagingSystem.Guarantees.ReceiptTicks

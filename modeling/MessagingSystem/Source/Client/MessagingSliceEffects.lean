import Mathlib.Data.List.Basic
import MessagingSystem.Source.Client.MessagingSlice

/-!
# Effects of the messaging reducers

What each reducer does to the four things the thread invariant reads: the
order of a thread (`idsOf`), the queue of optimistic sends (`pendingOf`), the
conversation of the row held under an id (`rowHome`) and the receipt level.
The typed plaintext map has its own lemmas, used by the attribution results.
-/
namespace MessagingSystem.Source.Client
open Foundation

namespace MessagingState

variable (s : MessagingState) (c d id other : String)

/-- The conversation of the row held under `id`. -/
def rowHome (s : MessagingState) (id : String) : Option String :=
  (s.messagesById.get id).map fun row => row.conversationId

@[simp] theorem idsOf_setIds_self (ids : List String) : (s.setIds c ids).idsOf c = ids := by
  simp [idsOf]

theorem idsOf_setIds (ids : List String) :
    (s.setIds c ids).idsOf d = if d = c then ids else s.idsOf d := by
  by_cases h : d = c
  · simp [idsOf, h]
  · simp [idsOf, h]

@[simp] theorem idsOf_setPending (queue : List String) :
    (s.setPending c queue).idsOf d = s.idsOf d := rfl

@[simp] theorem idsOf_setOutbound (level : OutboundReceiptLevel) :
    (s.setOutbound id level).idsOf d = s.idsOf d := rfl

@[simp] theorem idsOf_setMessage (m : StoredMessage) : (s.setMessage id m).idsOf d = s.idsOf d := rfl

@[simp] theorem idsOf_deleteOptimistic : (s.deleteOptimistic id).idsOf d = s.idsOf d := rfl

@[simp] theorem pendingOf_setPending_self (queue : List String) :
    (s.setPending c queue).pendingOf c = queue := by
  simp [pendingOf]

theorem pendingOf_setPending (queue : List String) :
    (s.setPending c queue).pendingOf d = if d = c then queue else s.pendingOf d := by
  by_cases h : d = c
  · simp [pendingOf, h]
  · simp [pendingOf, h]

@[simp] theorem pendingOf_setIds (ids : List String) :
    (s.setIds c ids).pendingOf d = s.pendingOf d := rfl

@[simp] theorem pendingOf_setOutbound (level : OutboundReceiptLevel) :
    (s.setOutbound id level).pendingOf d = s.pendingOf d := rfl

@[simp] theorem pendingOf_setMessage (m : StoredMessage) :
    (s.setMessage id m).pendingOf d = s.pendingOf d := rfl

@[simp] theorem pendingOf_deleteOptimistic :
    (s.deleteOptimistic id).pendingOf d = s.pendingOf d := rfl

@[simp] theorem rowHome_setIds (ids : List String) : (s.setIds c ids).rowHome id = s.rowHome id := rfl

@[simp] theorem rowHome_setPending (queue : List String) :
    (s.setPending c queue).rowHome id = s.rowHome id := rfl

@[simp] theorem rowHome_setOutbound (level : OutboundReceiptLevel) :
    (s.setOutbound other level).rowHome id = s.rowHome id := rfl

theorem rowHome_setMessage (m : StoredMessage) :
    (s.setMessage other m).rowHome id =
      if id = other then some m.conversationId else s.rowHome id := by
  by_cases h : id = other
  · simp [rowHome, h]
  · simp [rowHome, h]

end MessagingState

section Merging

theorem mergeOwnHybridWireBodyFromOptimistic_frame (m : Message) (body : Nullable String) :
    (mergeOwnHybridWireBodyFromOptimistic m body).id = m.id ∧
    (mergeOwnHybridWireBodyFromOptimistic m body).conversationId = m.conversationId ∧
    (mergeOwnHybridWireBodyFromOptimistic m body).senderId = m.senderId := by
  unfold mergeOwnHybridWireBodyFromOptimistic
  split
  · simp
  · split
    · split
      · simp
      · split <;> simp
    · simp

theorem mergeServerMessage_frame (m : Message) (optimistic : Option StoredMessage) :
    (mergeServerMessageWithOptimisticClientFields m optimistic).id = m.id ∧
    (mergeServerMessageWithOptimisticClientFields m optimistic).conversationId =
      m.conversationId := by
  have body : ∀ row : StoredMessage,
      (mergeOwnHybridWireBodyFromOptimistic m row.body).id = m.id ∧
      (mergeOwnHybridWireBodyFromOptimistic m row.body).conversationId = m.conversationId :=
    fun row => ⟨(mergeOwnHybridWireBodyFromOptimistic_frame m row.body).1,
      (mergeOwnHybridWireBodyFromOptimistic_frame m row.body).2.1⟩
  unfold mergeServerMessageWithOptimisticClientFields
  cases optimistic with
  | none => dsimp only; split <;> simp [Message.toStored]
  | some row => dsimp only; split <;> simp [Message.toStored, body row]

@[simp] theorem mergeServerMessage_conversationId (m : Message)
    (optimistic : Option StoredMessage) :
    (mergeServerMessageWithOptimisticClientFields m optimistic).conversationId =
      m.conversationId := (mergeServerMessage_frame m optimistic).2

theorem mergeHydrate_frame (existing : Option StoredMessage) (m : Message) :
    (mergeHydrateFetchedWithExisting existing m).id = m.id ∧
    (mergeHydrateFetchedWithExisting existing m).conversationId = m.conversationId ∧
    (mergeHydrateFetchedWithExisting existing m).senderId = m.senderId := by
  unfold mergeHydrateFetchedWithExisting
  cases existing with
  | none => simp [Message.toStored]
  | some row =>
    dsimp only
    split
    · simp
    · split <;> simp

@[simp] theorem mergeHydrate_id (existing : Option StoredMessage) (m : Message) :
    (mergeHydrateFetchedWithExisting existing m).id = m.id := (mergeHydrate_frame existing m).1

end Merging

section Send

theorem storeAndList_effects (s : MessagingState) (c : String) (m : StoredMessage) :
    (∀ d, (storeAndList s c m).idsOf d =
      if d = c then IdList.insertLast (s.idsOf c) m.id else s.idsOf d) ∧
    (∀ d, (storeAndList s c m).pendingOf d = s.pendingOf d) ∧
    (∀ id, (storeAndList s c m).messagesById.get id =
      if id = m.id then some m else s.messagesById.get id) ∧
    (storeAndList s c m).outboundReceiptByMessageId = s.outboundReceiptByMessageId ∧
    (storeAndList s c m).senderPlaintextByMessageId = s.senderPlaintextByMessageId := by
  unfold storeAndList IdList.insertLast
  dsimp only
  split
  · refine ⟨fun d => ?_, fun _ => rfl, fun id => by simp [Record.get_set], rfl, rfl⟩
    by_cases h : d = c <;> simp [h]
  · refine ⟨fun d => ?_, fun _ => rfl, fun id => by simp [Record.get_set], rfl, rfl⟩
    simp [MessagingState.idsOf_setIds]

/-- A client row is appended to its thread and queued as loading. -/
theorem appendMessageFromSend_effects (s : MessagingState) (c : String) (m : StoredMessage)
    (client : isClientId m.id = true) :
    (∀ d, (appendMessageFromSend s c m).idsOf d =
      if d = c then IdList.insertLast (s.idsOf c) m.id else s.idsOf d) ∧
    (∀ d, (appendMessageFromSend s c m).pendingOf d =
      if d = c then s.pendingOf c ++ [m.id] else s.pendingOf d) ∧
    (∀ id, (appendMessageFromSend s c m).messagesById.get id =
      if id = m.id then some m else s.messagesById.get id) ∧
    (∀ id, (appendMessageFromSend s c m).outboundReceiptByMessageId.get id =
      if id = m.id then some .loading else s.outboundReceiptByMessageId.get id) ∧
    (appendMessageFromSend s c m).senderPlaintextByMessageId = s.senderPlaintextByMessageId := by
  obtain ⟨order, queue, rows, receipts, typed⟩ := storeAndList_effects s c m
  simp only [appendMessageFromSend, client, if_true]
  refine ⟨fun d => by simpa using order d, fun d => ?_, fun id => by simpa using rows id,
    fun id => ?_, typed⟩
  · rw [MessagingState.pendingOf_setOutbound, MessagingState.pendingOf_setPending, queue, queue]
  · rw [MessagingState.setOutbound_outboundReceiptByMessageId, Record.get_set,
      MessagingState.setPending_outboundReceiptByMessageId, receipts]

theorem removeOptimisticMessage_effects (s : MessagingState) (c o : String) :
    (∀ d, (removeOptimisticMessage s c o).idsOf d =
      if d = c then (s.idsOf c).filter (· ≠ o) else s.idsOf d) ∧
    (∀ d, (removeOptimisticMessage s c o).pendingOf d =
      if d = c then (s.pendingOf c).filter (· ≠ o) else s.pendingOf d) ∧
    (∀ id, (removeOptimisticMessage s c o).messagesById.get id =
      if id = o then none else s.messagesById.get id) ∧
    (∀ id, (removeOptimisticMessage s c o).outboundReceiptByMessageId.get id =
      if id = o then none else s.outboundReceiptByMessageId.get id) := by
  unfold removeOptimisticMessage
  refine ⟨?_, ?_, ?_, ?_⟩
  · intro d
    simp [MessagingState.idsOf_setIds]
  · intro d
    simp [MessagingState.pendingOf_setPending]
  · intro id
    simp [Record.get_delete]
  · intro id
    simp [Record.get_delete]

@[simp] theorem removeOptimisticMessage_senderPlaintext (s : MessagingState) (c o : String) :
    (removeOptimisticMessage s c o).senderPlaintextByMessageId = s.senderPlaintextByMessageId := rfl

end Send

section Reconciliation

/-- The reconciliation of the optimistic row `o` of thread `c` with the server
row `m`: `m` takes the place of `o` in the thread, `o` leaves the queue, its
row and its receipt, and `m` is stored as sent. -/
structure Reconciled (s t : MessagingState) (c o : String) (m : Message)
    (optimistic : Option StoredMessage) : Prop where
  order : ∀ d, t.idsOf d = if d = c then IdList.reconcile (s.idsOf c) o m.id else s.idsOf d
  queue : ∀ d, t.pendingOf d =
    if d = c then (s.pendingOf c).filter (· ≠ o) else s.pendingOf d
  rows : ∀ id, t.messagesById.get id =
    if id = m.id then some (mergeServerMessageWithOptimisticClientFields m optimistic)
    else if id = o then none else s.messagesById.get id
  receipts : ∀ id, t.outboundReceiptByMessageId.get id =
    if id = m.id then some .sent
    else if id = o then none else s.outboundReceiptByMessageId.get id
  typed : ∀ id, t.senderPlaintextByMessageId.get id =
    let plain := plaintextAfterOptimisticMerge
      (mergeServerMessageWithOptimisticClientFields m optimistic) optimistic
    if id = m.id ∧ plain ≠ "" then some plain else s.senderPlaintextByMessageId.get id

theorem promoteOptimistic_effects (s : MessagingState) (o : String) (m : Message)
    (optimistic : Option StoredMessage) :
    (∀ d, (promoteOptimistic s o m optimistic).idsOf d = s.idsOf d) ∧
    (∀ d, (promoteOptimistic s o m optimistic).pendingOf d = s.pendingOf d) ∧
    (promoteOptimistic s o m optimistic).messagesById = (s.messagesById.delete o).set m.id
      (mergeServerMessageWithOptimisticClientFields m optimistic) ∧
    (promoteOptimistic s o m optimistic).outboundReceiptByMessageId =
      (s.outboundReceiptByMessageId.delete o).set m.id .sent ∧
    (promoteOptimistic s o m optimistic).senderPlaintextByMessageId =
      let plain := plaintextAfterOptimisticMerge
        (mergeServerMessageWithOptimisticClientFields m optimistic) optimistic
      if plain ≠ "" then s.senderPlaintextByMessageId.set m.id plain
      else s.senderPlaintextByMessageId := by
  unfold promoteOptimistic setSenderPlaintextAfterOptimisticMerge
  dsimp only
  split
  · exact ⟨fun _ => rfl, fun _ => rfl, rfl, rfl, rfl⟩
  · exact ⟨fun _ => rfl, fun _ => rfl, rfl, rfl, rfl⟩

/-- A promotion followed by the list and queue updates is a reconciliation. -/
theorem reconciled_of_promotion {s t : MessagingState} {c o : String} {m : Message}
    {optimistic : Option StoredMessage} (unqueued : MessagingState)
    (same : unqueued.messagesById = s.messagesById ∧
      unqueued.outboundReceiptByMessageId = s.outboundReceiptByMessageId ∧
      unqueued.senderPlaintextByMessageId = s.senderPlaintextByMessageId)
    (order : ∀ d, t.idsOf d = if d = c then IdList.reconcile (s.idsOf c) o m.id else s.idsOf d)
    (queue : ∀ d, t.pendingOf d =
      if d = c then (s.pendingOf c).filter (· ≠ o) else s.pendingOf d)
    (promoted : t.messagesById = (promoteOptimistic unqueued o m optimistic).messagesById ∧
      t.outboundReceiptByMessageId =
        (promoteOptimistic unqueued o m optimistic).outboundReceiptByMessageId ∧
      t.senderPlaintextByMessageId =
        (promoteOptimistic unqueued o m optimistic).senderPlaintextByMessageId) :
    Reconciled s t c o m optimistic := by
  obtain ⟨-, -, rows, receipts, typed⟩ := promoteOptimistic_effects unqueued o m optimistic
  refine ⟨order, queue, ?_, ?_, ?_⟩
  · intro id
    rw [promoted.1, rows, same.1, Record.get_set, Record.get_delete]
  · intro id
    rw [promoted.2.1, receipts, same.2.1, Record.get_set, Record.get_delete]
  · intro id
    rw [promoted.2.2, typed, same.2.2]
    dsimp only
    split
    · rename_i nonempty
      simp [Record.get_set, nonempty]
    · rename_i empty
      simp [empty]

theorem replaceOptimisticMessage_reconciles (s : MessagingState) (c o : String) (m : Message) :
    Reconciled s (replaceOptimisticMessage s c o m) c o m (s.messagesById.get o) := by
  have effects := promoteOptimistic_effects (s.setPending c ((s.pendingOf c).filter (· ≠ o))) o m
    (s.messagesById.get o)
  refine reconciled_of_promotion (s.setPending c ((s.pendingOf c).filter (· ≠ o)))
    ⟨rfl, rfl, rfl⟩ ?_ ?_ ?_
  · intro d
    unfold replaceOptimisticMessage IdList.reconcile IdList.insertLast dedupeIdsStable
    simp only [MessagingState.idsOf_setPending, MessagingState.setPending_messagesById]
    split
    · rw [MessagingState.idsOf_setIds, effects.1]
      rfl
    · split
      · rw [effects.1]
        split <;> simp [*]
      · rw [MessagingState.idsOf_setIds, effects.1]
        rfl
  · intro d
    unfold replaceOptimisticMessage
    simp only [MessagingState.idsOf_setPending, MessagingState.setPending_messagesById]
    split
    · rw [MessagingState.pendingOf_setIds, effects.2.1, MessagingState.pendingOf_setPending]
    · split
      · rw [effects.2.1, MessagingState.pendingOf_setPending]
      · rw [MessagingState.pendingOf_setIds, effects.2.1, MessagingState.pendingOf_setPending]
  · unfold replaceOptimisticMessage
    simp only [MessagingState.idsOf_setPending, MessagingState.setPending_messagesById]
    split
    · exact ⟨rfl, rfl, rfl⟩
    · split
      · exact ⟨rfl, rfl, rfl⟩
      · exact ⟨rfl, rfl, rfl⟩

end Reconciliation

section Plaintext

/-- A row without a typed body leaves the body and the envelope of the server
row as they are. -/
theorem mergeServerMessage_untyped (m : Message) (optimistic : Option StoredMessage)
    (untyped : ∀ row, optimistic = some row → row.body = .null) :
    (mergeServerMessageWithOptimisticClientFields m optimistic).body = m.body ∧
    isMessageWireE2ee (mergeServerMessageWithOptimisticClientFields m optimistic).toMessage =
      isMessageWireE2ee m := by
  have unmerged : ∀ row, optimistic = some row →
      mergeOwnHybridWireBodyFromOptimistic m row.body = m := by
    intro row h
    simp [mergeOwnHybridWireBodyFromOptimistic, untyped row h]
  unfold mergeServerMessageWithOptimisticClientFields
  cases optimistic with
  | none => dsimp only; split <;> exact ⟨rfl, rfl⟩
  | some row => simp only [unmerged row rfl]; split <;> exact ⟨rfl, rfl⟩

/-- The plaintext recorded for a reconciled row with typed text is that text. -/
theorem plaintextAfterOptimisticMerge_typed (merged row : StoredMessage) {text : String}
    (body : row.body = .value text) (nonempty : text ≠ "") :
    plaintextAfterOptimisticMerge merged (some row) = text := by
  simp [plaintextAfterOptimisticMerge, textOrEmpty, body, nonempty]

/-- Without typed text only a body that is not ciphertext is recorded. -/
theorem plaintextAfterOptimisticMerge_untyped (m : Message) (optimistic : Option StoredMessage)
    (untyped : ∀ row, optimistic = some row → row.body = .null)
    (recorded : plaintextAfterOptimisticMerge
      (mergeServerMessageWithOptimisticClientFields m optimistic) optimistic ≠ "") :
    isMessageWireE2ee m = false ∧ m.body = .value (plaintextAfterOptimisticMerge
      (mergeServerMessageWithOptimisticClientFields m optimistic) optimistic) := by
  obtain ⟨body, wire⟩ := mergeServerMessage_untyped m optimistic untyped
  have noText : (optimistic.map fun row => textOrEmpty row.body).getD "" = "" := by
    cases optimistic with
    | none => rfl
    | some row => simp [untyped row rfl, textOrEmpty]
  unfold plaintextAfterOptimisticMerge at recorded ⊢
  dsimp only at recorded ⊢
  rw [noText, body, wire] at recorded ⊢
  simp only [ne_eq, not_true_eq_false, if_false] at recorded ⊢
  cases hwire : isMessageWireE2ee m with
  | true => simp [hwire] at recorded
  | false =>
    cases hbody : m.body with
    | value b => simp [textOrEmpty]
    | null => simp [hbody, hwire, textOrEmpty] at recorded
    | undefined => simp [hbody, hwire, textOrEmpty] at recorded

/-- The record of a first message's text touches nothing but the typed text of its id. -/
theorem recordOwnSendPlaintext_effects (s : MessagingState) (messageId plaintext : String) :
    (∀ d, (recordOwnSendPlaintext s messageId plaintext).idsOf d = s.idsOf d) ∧
    (∀ d, (recordOwnSendPlaintext s messageId plaintext).pendingOf d = s.pendingOf d) ∧
    (recordOwnSendPlaintext s messageId plaintext).messagesById = s.messagesById ∧
    (recordOwnSendPlaintext s messageId plaintext).outboundReceiptByMessageId =
      s.outboundReceiptByMessageId ∧
    (∀ id, (recordOwnSendPlaintext s messageId plaintext).senderPlaintextByMessageId.get id =
      if id = EcmaText.trim messageId ∧ id ≠ "" ∧ plaintext ≠ "" then some plaintext
      else s.senderPlaintextByMessageId.get id) := by
  unfold recordOwnSendPlaintext
  dsimp only
  split
  · rename_i skipped
    refine ⟨fun _ => rfl, fun _ => rfl, rfl, rfl, fun id => ?_⟩
    rw [if_neg]
    rintro ⟨rfl, nonempty, typed⟩
    exact skipped.elim nonempty typed
  · rename_i recorded
    rw [not_or] at recorded
    refine ⟨fun _ => rfl, fun _ => rfl, rfl, rfl, fun id => ?_⟩
    rw [Record.get_set]
    by_cases h : id = EcmaText.trim messageId
    · subst h
      simp [recorded.1, recorded.2]
    · simp [h]

end Plaintext

section Incoming

/-- The server row was sent by the signed-in user. -/
def isOwnMessage (message : Message) (currentUserId : Option String) : Bool :=
  let selfId := EcmaText.trim (currentUserId.getD "")
  decide (selfId ≠ "" ∧ message.senderId = selfId)

/-- The optimistic row whose place an own `message:new` takes: the head of the
pruned queue, when its row is held. -/
def echoTarget (s : MessagingState) (message : Message) (currentUserId : Option String) :
    Option (String × StoredMessage) :=
  if isOwnMessage message currentUserId then
    match pruneQueue s (s.idsOf message.conversationId) (s.pendingOf message.conversationId) with
    | o :: _ => (s.messagesById.get o).map fun row => (o, row)
    | [] => none
  else none

theorem pruneQueue_eq_self (s : MessagingState) (ids queue : List String)
    (listed : ∀ o ∈ queue, o ∈ ids) : pruneQueue s ids queue = queue := by
  unfold pruneQueue
  cases queue with
  | nil => rfl
  | cons o rest => simp [listed o (by simp)]

theorem echoTarget_queued {s : MessagingState} {m : Message} {user : Option String} {o : String}
    {row : StoredMessage} (target : echoTarget s m user = some (o, row)) :
    o ∈ s.pendingOf m.conversationId := by
  unfold echoTarget at target
  split at target
  · split at target
    · rename_i head rest hq
      simp only [Option.map_eq_some_iff, Prod.mk.injEq] at target
      obtain ⟨-, -, rfl, -⟩ := target
      have suffix : (head :: rest) <:+ s.pendingOf m.conversationId := by
        rw [← hq]
        exact List.dropWhile_suffix _
      exact suffix.subset (by simp)
    · cases target
  · cases target

theorem echoTarget_row {s : MessagingState} {m : Message} {user : Option String} {o : String}
    {row : StoredMessage} (target : echoTarget s m user = some (o, row)) :
    s.messagesById.get o = some row := by
  unfold echoTarget at target
  split at target
  · split at target
    · simp only [Option.map_eq_some_iff, Prod.mk.injEq] at target
      obtain ⟨held, hrow, rfl, rfl⟩ := target
      exact hrow
    · cases target
  · cases target

theorem appendIncoming_held {s : MessagingState} {m : Message} (user : Option String)
    (held : (s.messagesById.get m.id).isSome) : appendIncomingMessageIfNew s m user = s := by
  simp [appendIncomingMessageIfNew, held]

/-- An own message takes the place of the head of a queue whose ids are all listed. -/
theorem appendIncoming_reconciles {s : MessagingState} {m : Message} {user : Option String}
    {o : String} {row : StoredMessage}
    (absent : s.messagesById.get m.id = none)
    (listed : ∀ id ∈ s.pendingOf m.conversationId, id ∈ s.idsOf m.conversationId)
    (distinct : (s.pendingOf m.conversationId).Nodup)
    (target : echoTarget s m user = some (o, row)) :
    Reconciled s (appendIncomingMessageIfNew s m user) m.conversationId o m (some row) := by
  have own : isOwnMessage m user = true := by
    by_contra h
    simp [echoTarget, h] at target
  unfold echoTarget at target
  rw [pruneQueue_eq_self s _ _ listed, own] at target
  cases hq : s.pendingOf m.conversationId with
  | nil => simp [hq] at target
  | cons head rest =>
    rw [hq] at distinct
    simp only [hq, if_true, Option.map_eq_some_iff, Prod.mk.injEq] at target
    obtain ⟨held, hrow, rfl, rfl⟩ := target
    have member : head ∈ s.idsOf m.conversationId := listed head (by simp [hq])
    have tail : (head :: rest).filter (· ≠ head) = rest := by
      rw [List.filter_cons_of_neg (by simp), List.filter_eq_self]
      intro x hx
      simpa using ne_of_mem_of_not_mem hx (List.nodup_cons.mp distinct).1
    have effects := promoteOptimistic_effects (s.setPending m.conversationId (head :: rest)) head m
      (some held)
    have unfolded : appendIncomingMessageIfNew s m user =
        ((promoteOptimistic (s.setPending m.conversationId (head :: rest)) head m
          (some held)).setIds m.conversationId
            (IdList.keepFirst ((s.idsOf m.conversationId).set
              ((s.idsOf m.conversationId).idxOf head) m.id))).setPending m.conversationId rest := by
      have ownDecide : decide (EcmaText.trim (user.getD "") ≠ "" ∧
          m.senderId = EcmaText.trim (user.getD "")) = true := own
      unfold appendIncomingMessageIfNew
      dsimp only
      rw [absent, ownDecide, pruneQueue_eq_self s _ _ listed, hq]
      simp [hrow, member, dedupeIdsStable]
    rw [unfolded]
    refine reconciled_of_promotion (s.setPending m.conversationId (head :: rest))
      ⟨rfl, rfl, rfl⟩ ?_ ?_ ⟨rfl, rfl, rfl⟩
    · intro d
      simp [MessagingState.idsOf_setIds, effects.1, IdList.reconcile, member]
    · intro d
      rw [MessagingState.pendingOf_setPending, MessagingState.pendingOf_setIds, effects.2.1,
        MessagingState.pendingOf_setPending, hq, tail]
      split <;> rfl

theorem appendPlainIncoming_effects (s : MessagingState) (m : Message) (own : Bool) :
    (∀ d, (appendPlainIncoming s m own).idsOf d =
      if d = m.conversationId then IdList.insertLast (s.idsOf m.conversationId) m.id
      else s.idsOf d) ∧
    (∀ d, (appendPlainIncoming s m own).pendingOf d = s.pendingOf d) ∧
    (∀ id, (appendPlainIncoming s m own).messagesById.get id =
      if id = m.id then some m.toStored else s.messagesById.get id) ∧
    (∀ id, (appendPlainIncoming s m own).outboundReceiptByMessageId.get id =
      if id = m.id ∧ own ∧ s.outboundReceiptByMessageId.get m.id = none
      then some .sent else s.outboundReceiptByMessageId.get id) ∧
    (appendPlainIncoming s m own).senderPlaintextByMessageId = s.senderPlaintextByMessageId := by
  obtain ⟨order, queue, rows, receipts, typed⟩ :=
    storeAndList_effects s m.conversationId m.toStored
  unfold appendPlainIncoming
  dsimp only
  rw [receipts]
  split
  · rename_i marked
    obtain ⟨isOwn, noReceipt⟩ := Bool.and_eq_true_iff.mp marked
    refine ⟨order, queue, rows, fun id => ?_, typed⟩
    rw [MessagingState.setOutbound_outboundReceiptByMessageId, receipts, Record.get_set]
    simp [isOwn, Option.isNone_iff_eq_none.mp noReceipt]
  · rename_i unmarked
    refine ⟨order, queue, rows, fun id => ?_, typed⟩
    rw [receipts, if_neg]
    rintro ⟨-, isOwn, noReceipt⟩
    exact unmarked (by simp [isOwn, noReceipt])

/-- Every other new message is appended as it came. -/
theorem appendIncoming_appends {s : MessagingState} {m : Message} {user : Option String}
    (absent : s.messagesById.get m.id = none)
    (listed : ∀ id ∈ s.pendingOf m.conversationId, id ∈ s.idsOf m.conversationId)
    (noTarget : echoTarget s m user = none) :
    (∀ d, (appendIncomingMessageIfNew s m user).idsOf d =
      if d = m.conversationId then IdList.insertLast (s.idsOf m.conversationId) m.id
      else s.idsOf d) ∧
    (∀ d, (appendIncomingMessageIfNew s m user).pendingOf d = s.pendingOf d) ∧
    (∀ id, (appendIncomingMessageIfNew s m user).messagesById.get id =
      if id = m.id then some m.toStored else s.messagesById.get id) ∧
    (∀ id, (appendIncomingMessageIfNew s m user).outboundReceiptByMessageId.get id =
      if id = m.id ∧ isOwnMessage m user ∧ s.outboundReceiptByMessageId.get m.id = none
      then some .sent else s.outboundReceiptByMessageId.get id) ∧
    (appendIncomingMessageIfNew s m user).senderPlaintextByMessageId =
      s.senderPlaintextByMessageId := by
  have ownDecide : decide (EcmaText.trim (user.getD "") ≠ "" ∧
      m.senderId = EcmaText.trim (user.getD "")) = isOwnMessage m user := rfl
  have plain := appendPlainIncoming_effects s m (isOwnMessage m user)
  have requeued := appendPlainIncoming_effects
    (s.setPending m.conversationId (s.pendingOf m.conversationId)) m (isOwnMessage m user)
  have samePending : ∀ d,
      (s.setPending m.conversationId (s.pendingOf m.conversationId)).pendingOf d =
        s.pendingOf d := by
    intro d
    rw [MessagingState.pendingOf_setPending]
    split
    · rename_i h
      rw [h]
    · rfl
  simp only [MessagingState.idsOf_setPending, samePending,
    MessagingState.setPending_messagesById, MessagingState.setPending_outboundReceiptByMessageId,
    MessagingState.setPending_senderPlaintextByMessageId] at requeued
  unfold appendIncomingMessageIfNew
  dsimp only
  rw [absent, ownDecide, pruneQueue_eq_self s _ _ listed]
  unfold echoTarget at noTarget
  rw [pruneQueue_eq_self s _ _ listed] at noTarget
  cases own : isOwnMessage m user with
  | false => simpa [own] using plain
  | true =>
    rw [own] at requeued noTarget
    cases hq : s.pendingOf m.conversationId with
    | nil => simpa [hq] using requeued
    | cons o rest =>
      have noRow : s.messagesById.get o = none := by simpa [hq] using noTarget
      simpa [hq, noRow] using requeued

end Incoming

section Hydration

/-- One fetched row: its own entries are written, every other entry is kept. -/
theorem hydrateRow_effects (selfId : String) (s : MessagingState) (m : Message) :
    (∀ d, (hydrateRow selfId s m).idsOf d = s.idsOf d) ∧
    (∀ d, (hydrateRow selfId s m).pendingOf d = s.pendingOf d) ∧
    (∀ id, id ≠ m.id → (hydrateRow selfId s m).messagesById.get id = s.messagesById.get id) ∧
    (hydrateRow selfId s m).rowHome m.id = some m.conversationId ∧
    (∀ id, id ≠ m.id → (hydrateRow selfId s m).outboundReceiptByMessageId.get id =
      s.outboundReceiptByMessageId.get id) ∧
    ((hydrateRow selfId s m).outboundReceiptByMessageId.get m.id = some .sent ∨
      (hydrateRow selfId s m).outboundReceiptByMessageId.get m.id =
        s.outboundReceiptByMessageId.get m.id) ∧
    (hydrateRow selfId s m).senderPlaintextByMessageId = s.senderPlaintextByMessageId := by
  have home := (mergeHydrate_frame (s.messagesById.get m.id) m).2.1
  unfold hydrateRow
  dsimp only
  split
  · refine ⟨fun _ => rfl, fun _ => rfl, fun id h => ?_, ?_, fun id h => ?_, .inl ?_, rfl⟩
    · simp [h]
    · rw [MessagingState.rowHome_setOutbound, MessagingState.rowHome_setMessage]
      simp [home]
    · simp [h]
    · simp
  · refine ⟨fun _ => rfl, fun _ => rfl, fun id h => ?_, ?_, fun id _ => rfl, .inr rfl, rfl⟩
    · simp [h]
    · rw [MessagingState.rowHome_setMessage]
      simp [home]

/-- The hydration loop over a page of conversation `c`. -/
theorem hydrateRows_effects (selfId c : String) (page : List Message)
    (ofThread : ∀ m ∈ page, m.conversationId = c) (s : MessagingState) :
    (∀ d, (page.foldl (hydrateRow selfId) s).idsOf d = s.idsOf d) ∧
    (∀ d, (page.foldl (hydrateRow selfId) s).pendingOf d = s.pendingOf d) ∧
    (∀ id, id ∉ page.map (fun m => m.id) →
      (page.foldl (hydrateRow selfId) s).messagesById.get id = s.messagesById.get id) ∧
    (∀ id ∈ page.map (fun m => m.id), (page.foldl (hydrateRow selfId) s).rowHome id = some c) ∧
    (∀ id, id ∉ page.map (fun m => m.id) →
      (page.foldl (hydrateRow selfId) s).outboundReceiptByMessageId.get id =
        s.outboundReceiptByMessageId.get id) ∧
    (∀ id, (page.foldl (hydrateRow selfId) s).outboundReceiptByMessageId.get id = some .sent ∨
      (page.foldl (hydrateRow selfId) s).outboundReceiptByMessageId.get id =
        s.outboundReceiptByMessageId.get id) ∧
    (page.foldl (hydrateRow selfId) s).senderPlaintextByMessageId =
      s.senderPlaintextByMessageId := by
  induction page generalizing s with
  | nil => simp
  | cons m rest ih =>
    obtain ⟨order, queue, rows, home, receipts, receipt, typed⟩ := hydrateRow_effects selfId s m
    obtain ⟨order', queue', rows', home', receipts', receipt', typed'⟩ :=
      ih (fun x hx => ofThread x (by simp [hx])) (hydrateRow selfId s m)
    simp only [List.foldl_cons, List.map_cons, List.mem_cons, not_or]
    refine ⟨fun d => (order' d).trans (order d), fun d => (queue' d).trans (queue d),
      fun id h => (rows' id h.2).trans (rows id h.1), ?_,
      fun id h => (receipts' id h.2).trans (receipts id h.1), ?_, typed'.trans typed⟩
    · intro id member
      by_cases later : id ∈ rest.map fun m => m.id
      · exact home' id later
      · obtain rfl : id = m.id := by
          rcases member with h | h
          · exact h
          · exact absurd h later
        unfold MessagingState.rowHome at home ⊢
        rw [rows' m.id later, home, ofThread m (by simp)]
    · intro id
      rcases receipt' id with h | h
      · exact .inl h
      · rw [h]
        by_cases same : id = m.id
        · subst same
          exact receipt
        · exact .inr (receipts id same)

theorem dropRows_frame {β : Type} (read : MessagingState → β)
    (unread : ∀ s id, read (s.dropRow id) = read s) (newIds ids : List String)
    (s : MessagingState) : read (dropRows newIds ids s) = read s := by
  unfold dropRows
  induction ids generalizing s with
  | nil => rfl
  | cons id rest ih =>
    rw [List.foldl_cons, ih]
    split
    · rfl
    · exact unread s id

theorem dropRows_get {β : Type} (field : MessagingState → Record β)
    (deletes : ∀ s id, field (s.dropRow id) = (field s).delete id) (newIds ids : List String)
    (s : MessagingState) (id : String) :
    (field (dropRows newIds ids s)).get id =
      if id ∈ ids ∧ id ∉ newIds then none else (field s).get id := by
  have hom : field (dropRows newIds ids s) =
      ids.foldl (fun r k => if newIds.contains k then r else r.delete k) (field s) := by
    refine (List.foldl_hom field ?_).symm
    intro t k
    split
    · rfl
    · exact (deletes t k).symm
  rw [hom, Record.get_foldl_delete]
  simp

theorem hydrateMessagesFromFetch_effects (s : MessagingState) (c : String)
    (messages : List Message) (user : Option String)
    (ofThread : ∀ m ∈ messages, m.conversationId = c) :
    let t := hydrateMessagesFromFetch s c messages user
    let fetched := messages.map fun m => m.id
    (∀ d, t.idsOf d = if d = c then fetched.reverse else s.idsOf d) ∧
    (∀ d, t.pendingOf d = if d = c then [] else s.pendingOf d) ∧
    (∀ id, id ∉ fetched → t.messagesById.get id =
      if id ∈ s.idsOf c then none else s.messagesById.get id) ∧
    (∀ id ∈ fetched, t.rowHome id = some c) ∧
    (∀ id, id ∉ fetched → t.outboundReceiptByMessageId.get id =
      if id ∈ s.idsOf c then none else s.outboundReceiptByMessageId.get id) ∧
    (∀ id ∈ fetched, t.outboundReceiptByMessageId.get id = some .sent ∨
      t.outboundReceiptByMessageId.get id = s.outboundReceiptByMessageId.get id) ∧
    (∀ id, t.senderPlaintextByMessageId.get id =
      if id ∈ s.idsOf c ∧ id ∉ fetched then none else s.senderPlaintextByMessageId.get id) := by
  dsimp only
  have ids : (messages.reverse.map fun m => m.id) = (messages.map fun m => m.id).reverse :=
    List.map_reverse
  obtain ⟨order, queue, rows, home, receipts, receipt, typed⟩ :=
    hydrateRows_effects (EcmaText.trim (user.getD "")) c messages.reverse
      (fun m hm => ofThread m (List.mem_reverse.mp hm))
      ((dropRows (messages.map fun m => m.id).reverse (s.idsOf c) s).setIds c
        (messages.map fun m => m.id).reverse)
  simp only [ids, List.mem_reverse] at rows home receipts
  unfold hydrateMessagesFromFetch
  dsimp only
  rw [ids]
  refine ⟨?_, ?_, ?_, home, ?_, ?_, ?_⟩
  · intro d
    refine (order d).trans ?_
    rw [MessagingState.idsOf_setIds, dropRows_frame (fun s => s.idsOf d) fun _ _ => rfl]
  · intro d
    by_cases h : d = c
    · simp [MessagingState.pendingOf, h]
    · have same := (queue d).trans (dropRows_frame (fun s => s.pendingOf d) (fun _ _ => rfl) _ _ s)
      rw [if_neg h, ← same]
      simp only [MessagingState.pendingOf, Record.get_delete_of_ne _ h]
  · intro id fresh
    refine (rows id fresh).trans ?_
    rw [MessagingState.setIds_messagesById, dropRows_get (·.messagesById) fun _ _ => rfl]
    simp only [List.mem_reverse, fresh, not_false_eq_true, and_true]
  · intro id fresh
    refine (receipts id fresh).trans ?_
    rw [MessagingState.setIds_outboundReceiptByMessageId,
      dropRows_get (·.outboundReceiptByMessageId) fun _ _ => rfl]
    simp only [List.mem_reverse, fresh, not_false_eq_true, and_true]
  · intro id member
    refine (receipt id).imp_right fun same => same.trans ?_
    rw [MessagingState.setIds_outboundReceiptByMessageId,
      dropRows_get (·.outboundReceiptByMessageId) fun _ _ => rfl]
    simp only [List.mem_reverse, member, not_true_eq_false, and_false, if_false]
  · intro id
    refine (congrArg (fun r => r.get id) typed).trans ?_
    rw [MessagingState.setIds_senderPlaintextByMessageId,
      dropRows_get (·.senderPlaintextByMessageId) fun _ _ => rfl]
    simp only [List.mem_reverse]

end Hydration

end MessagingSystem.Source.Client

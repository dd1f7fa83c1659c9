import MessagingSystem.Source.Client.MessageReceipts
import MessagingSystem.Source.Client.MessagingSliceEffects

/-!
# The messaging store

Every reducer of `messagingSlice.ts` that touches the modelled fields, as one
transition function: the thread reducers, the two receipt merges, the overlays
and the reset that `resetMessaging` and `logout` share.
-/
namespace MessagingSystem.Source.Client
open Foundation

/-- `x?.trim() ?? ''` stored when it is not empty, else the entry deleted; an
argument that is `undefined` leaves the map alone. -/
def storeOrDelete (map : Record String) (id : String) (field : Nullable String) : Record String :=
  match field with
  | .undefined => map
  | field =>
      let text := trimOrEmpty field
      if text ≠ "" then map.set id text else map.delete id

def setPeerDecryptedBody (state : MessagingState) (messageId plaintext : String)
    (resolvedAttachmentKey resolvedAttachmentUrl : Nullable String) : MessagingState :=
  { state with
    decryptedBodyByMessageId := state.decryptedBodyByMessageId.set messageId plaintext
    decryptedAttachmentKeyByMessageId :=
      storeOrDelete state.decryptedAttachmentKeyByMessageId messageId resolvedAttachmentKey
    decryptedAttachmentUrlByMessageId :=
      storeOrDelete state.decryptedAttachmentUrlByMessageId messageId resolvedAttachmentUrl }

def hydrateSenderPlaintextFromDisk (state : MessagingState) (entries : List (String × String)) :
    MessagingState :=
  { state with
    senderPlaintextByMessageId := entries.foldl (fun map entry =>
      if EcmaText.isNonBlank entry.1 then map.set entry.1 entry.2 else map)
      state.senderPlaintextByMessageId }

/-- The two reducers that merge receipts. -/
inductive ReceiptMerge where
  | mergeReceiptFanoutFromSocket (payload : ReceiptSocketPayload) (kind : FanoutKind)
  | mergeReceiptSummariesFromFetch (conversationId : String) (items : List MessageReceiptSummary)

def mergeReceipts (state : MessagingState) : ReceiptMerge → MessagingState
  | .mergeReceiptFanoutFromSocket payload kind => mergeReceiptFanoutFromSocket state payload kind
  | .mergeReceiptSummariesFromFetch conversationId items =>
      mergeReceiptSummariesFromFetch state conversationId items

inductive StoreAction where
  | thread (action : MessagingAction)
  | receipts (merge : ReceiptMerge)
  | setPeerDecryptedBody (messageId plaintext : String)
      (resolvedAttachmentKey resolvedAttachmentUrl : Nullable String)
  | hydrateSenderPlaintextFromDisk (entries : List (String × String))
  | resetMessaging

def storeReducer (state : MessagingState) : StoreAction → MessagingState
  | .thread action => messagingReducer state action
  | .receipts merge => mergeReceipts state merge
  | .setPeerDecryptedBody messageId plaintext key url =>
      setPeerDecryptedBody state messageId plaintext key url
  | .hydrateSenderPlaintextFromDisk entries => hydrateSenderPlaintextFromDisk state entries
  | .resetMessaging => initialState

/-- The store after a sequence of actions. -/
def storeAfter (actions : List StoreAction) : MessagingState := actions.foldl storeReducer initialState

section Levels

/-- The levels of `t` are those of `s`, or `loading` or `sent`. -/
def Relevels (s t : MessagingState) : Prop :=
  ∀ id level, t.outboundReceiptByMessageId.get id = some level →
    level = .loading ∨ level = .sent ∨ s.outboundReceiptByMessageId.get id = some level

variable {s t u : MessagingState}

theorem Relevels.of_eq (same : t.outboundReceiptByMessageId = s.outboundReceiptByMessageId) :
    Relevels s t :=
  fun _ _ held => .inr (.inr (same ▸ held))

theorem Relevels.trans (first : Relevels s t) (second : Relevels t u) : Relevels s u := by
  intro id level held
  rcases second id level held with loading | sent | before
  · exact .inl loading
  · exact .inr (.inl sent)
  · exact first id level before

theorem relevels_setOutbound (id : String) {level : OutboundReceiptLevel}
    (early : level = .loading ∨ level = .sent) : Relevels s (s.setOutbound id level) := by
  intro j found held
  rw [MessagingState.setOutbound_outboundReceiptByMessageId, Record.get_set] at held
  split at held
  · cases held
    rcases early with loading | sent
    · exact .inl loading
    · exact .inr (.inl sent)
  · exact .inr (.inr held)

/-- Deleted entries do not count. -/
theorem relevels_of_delete (id : String)
    (deleted : t.outboundReceiptByMessageId = s.outboundReceiptByMessageId.delete id) :
    Relevels s t := by
  intro j level held
  rw [deleted, Record.get_delete] at held
  split at held
  · cases held
  · exact .inr (.inr held)

theorem relevels_foldl {α : Type} {f : MessagingState → α → MessagingState}
    (step : ∀ s a, Relevels s (f s a)) (items : List α) (s : MessagingState) :
    Relevels s (items.foldl f s) := by
  induction items generalizing s with
  | nil => exact .of_eq rfl
  | cons item rest ih => exact (step s item).trans (ih (f s item))

theorem relevels_promoteOptimistic (s : MessagingState) (o : String) (m : Message)
    (optimistic : Option StoredMessage) : Relevels s (promoteOptimistic s o m optimistic) := by
  intro id level held
  rw [(promoteOptimistic_effects s o m optimistic).2.2.2.1, Record.get_set] at held
  split at held
  · cases held
    exact .inr (.inl rfl)
  · rw [Record.get_delete] at held
    split at held
    · cases held
    · exact .inr (.inr held)

theorem relevels_appendPlainIncoming (s : MessagingState) (m : Message) (own : Bool) :
    Relevels s (appendPlainIncoming s m own) := by
  intro id level held
  rw [(appendPlainIncoming_effects s m own).2.2.2.1] at held
  split at held
  · cases held
    exact .inr (.inl rfl)
  · exact .inr (.inr held)

theorem relevels_appendIncoming (s : MessagingState) (m : Message) (user : Option String) :
    Relevels s (appendIncomingMessageIfNew s m user) := by
  unfold appendIncomingMessageIfNew
  dsimp only
  split
  · exact .of_eq rfl
  · split
    · split
      · split
        · exact relevels_promoteOptimistic (s.setPending _ _) _ m _
        · exact relevels_appendPlainIncoming (s.setPending _ _) m _
      · exact relevels_appendPlainIncoming (s.setPending _ _) m _
    · exact relevels_appendPlainIncoming s m _

theorem relevels_hydrateRow (selfId : String) (s : MessagingState) (m : Message) :
    Relevels s (hydrateRow selfId s m) := by
  unfold hydrateRow
  dsimp only
  split
  · exact (Relevels.of_eq rfl).trans (relevels_setOutbound _ (.inr rfl))
  · exact .of_eq rfl

theorem relevels_hydrate (s : MessagingState) (c : String) (messages : List Message)
    (user : Option String) : Relevels s (hydrateMessagesFromFetch s c messages user) := by
  unfold hydrateMessagesFromFetch dropRows
  dsimp only
  refine Relevels.trans (t := List.foldl _ _ _) ?_ (.of_eq rfl)
  refine Relevels.trans ?_ (relevels_foldl (relevels_hydrateRow _) _ _)
  refine Relevels.trans (relevels_foldl ?_ (s.idsOf c) s) (.of_eq rfl)
  intro s id
  split
  · exact .of_eq rfl
  · exact relevels_of_delete id rfl

theorem relevels_replaceOptimistic (s : MessagingState) (c o : String) (m : Message) :
    Relevels s (replaceOptimisticMessage s c o m) := by
  unfold replaceOptimisticMessage
  dsimp only
  have promoted := relevels_promoteOptimistic (s.setPending c ((s.pendingOf c).filter (· ≠ o))) o m
  split
  · exact promoted _
  · split
    · exact promoted _
    · exact promoted _

theorem relevels_appendMessageFromSend (s : MessagingState) (c : String) (m : StoredMessage) :
    Relevels s (appendMessageFromSend s c m) := by
  have listed : Relevels s (storeAndList s c m) := .of_eq (storeAndList_effects s c m).2.2.2.1
  unfold appendMessageFromSend
  dsimp only
  split
  · exact (listed.trans (.of_eq rfl)).trans (relevels_setOutbound m.id (.inl rfl))
  · exact listed

theorem relevels_messagingReducer (s : MessagingState) (action : MessagingAction) :
    Relevels s (messagingReducer s action) := by
  cases action with
  | appendMessageFromSend c m => exact relevels_appendMessageFromSend s c m
  | appendIncomingMessageIfNew m user => exact relevels_appendIncoming s m user
  | replaceOptimisticMessage c o m => exact relevels_replaceOptimistic s c o m
  | removeOptimisticMessage c o => exact relevels_of_delete o rfl
  | hydrateMessagesFromFetch c messages user => exact relevels_hydrate s c messages user
  | recordOwnSendPlaintext messageId plaintext =>
    exact .of_eq (recordOwnSendPlaintext_effects s messageId plaintext).2.2.2.1

theorem mergeFetched_frame (cid : String) (items : List MessageReceiptSummary) (s : MessagingState) :
    (items.foldl (mergeFetchedSummary cid) s).messagesById = s.messagesById ∧
      (items.foldl (mergeFetchedSummary cid) s).outboundReceiptByMessageId =
        s.outboundReceiptByMessageId := by
  induction items generalizing s with
  | nil => exact ⟨rfl, rfl⟩
  | cons item rest ih =>
    obtain ⟨rows, levels⟩ := ih (mergeFetchedSummary cid s item)
    rw [List.foldl_cons, rows, levels]
    unfold mergeFetchedSummary
    split
    · exact ⟨rfl, rfl⟩
    · exact ⟨rfl, rfl⟩

/-- A merge of receipts changes neither the rows nor their levels. -/
theorem mergeReceipts_frame (s : MessagingState) (merge : ReceiptMerge) :
    (mergeReceipts s merge).messagesById = s.messagesById ∧
      (mergeReceipts s merge).outboundReceiptByMessageId = s.outboundReceiptByMessageId := by
  cases merge with
  | mergeReceiptFanoutFromSocket payload kind =>
    unfold mergeReceipts mergeReceiptFanoutFromSocket
    dsimp only
    split
    · exact ⟨rfl, rfl⟩
    · split
      · exact ⟨rfl, rfl⟩
      · exact ⟨rfl, rfl⟩
  | mergeReceiptSummariesFromFetch conversationId items =>
    unfold mergeReceipts mergeReceiptSummariesFromFetch
    dsimp only
    split
    · exact ⟨rfl, rfl⟩
    · exact mergeFetched_frame _ items s

/-- A row of the store is loading or sent; the later ticks come from receipts. -/
theorem storeAfter_levels (actions : List StoreAction) (id : String) (level : OutboundReceiptLevel)
    (held : (storeAfter actions).outboundReceiptByMessageId.get id = some level) :
    level = .loading ∨ level = .sent := by
  have step : ∀ s action, Relevels initialState s → Relevels initialState (storeReducer s action) := by
    intro s action before
    cases action with
    | thread action => exact before.trans (relevels_messagingReducer s action)
    | receipts merge => exact before.trans (.of_eq (mergeReceipts_frame s merge).2)
    | setPeerDecryptedBody => exact before.trans (.of_eq rfl)
    | hydrateSenderPlaintextFromDisk => exact before.trans (.of_eq rfl)
    | resetMessaging => exact .of_eq rfl
  have run : ∀ (actions : List StoreAction) (s : MessagingState), Relevels initialState s →
      Relevels initialState (actions.foldl storeReducer s) := by
    intro actions
    induction actions with
    | nil => exact fun s before => before
    | cons action rest ih => exact fun s before => ih _ (step s action before)
  rcases run actions initialState (.of_eq rfl) id level held with loading | sent | before
  · exact .inl loading
  · exact .inr sent
  · exact absurd before (by simp [initialState])

end Levels

end MessagingSystem.Source.Client

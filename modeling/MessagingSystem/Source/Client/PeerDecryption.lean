import MessagingSystem.Source.Client.KeypairMaintenance
import MessagingSystem.Source.Client.MessageDisplay
import MessagingSystem.Source.Client.MessageHybridPlaintext
import MessagingSystem.Source.Client.MessagingStore

/-!
# Decrypt passes

`usePeerMessageDecryption.ts` and `peerDecryptRetry.ts`: the rows that a pass
takes up, what it records for each of them, and the entry of the store that it
shares with the earlier passes.
-/
namespace MessagingSystem.Source.Client
open Foundation

def shouldRetryPeerDecryptAfterCachedFailure (cachedPlaintext : Option String) : Bool :=
  cachedPlaintext = none || cachedPlaintext = some PEER_DECRYPT_NO_DEVICE_KEY_ENTRY

/-- The row of an id, when the pass takes it up. -/
def decryptTarget (s : MessagingState) (uid mid : String) : Option Message :=
  (s.messagesById.get mid).bind fun m =>
    if !isHybridE2eeMessage m.toMessage then none
    else if !shouldRetryPeerDecryptAfterCachedFailure (s.decryptedBodyByMessageId.get mid) then none
    else if m.senderId = uid ∧ (s.senderPlaintextByMessageId.get mid).isSome then none
    else some m.toMessage

def decryptTargets (s : MessagingState) (uid : String) (midList : List String) : List Message :=
  midList.filterMap (decryptTarget s uid)

/-- The payload of `setPeerDecryptedBody` beside the id. -/
structure DecryptedBody where
  plaintext : String
  resolvedAttachmentKey : Nullable String := .undefined
  resolvedAttachmentUrl : Nullable String := .undefined
  deriving DecidableEq

def MessagingState.record (s : MessagingState) (messageId : String) (body : DecryptedBody) : MessagingState :=
  setPeerDecryptedBody s messageId body.plaintext body.resolvedAttachmentKey body.resolvedAttachmentUrl

@[simp] theorem MessagingState.record_messagesById (s : MessagingState) (id : String) (body : DecryptedBody) :
    (s.record id body).messagesById = s.messagesById := rfl

theorem MessagingState.record_get (s : MessagingState) (id : String) (body : DecryptedBody) (j : String) :
    (s.record id body).decryptedBodyByMessageId.get j =
      if j = id then some body.plaintext else s.decryptedBodyByMessageId.get j :=
  Record.get_set _ _ _ _

/-- What is recorded of a decrypted inner plaintext. -/
def decryptedBodyOf (env : MediaEnv) (pt : CodeUnits) : DecryptedBody :=
  let parsed := parseDecryptedHybridUtf8 env (String.ofList (TextCoding.scalars pt))
  let url := EcmaText.trim (parsed.mediaRetrievableUrl.getD "")
  { plaintext := parsed.text
    resolvedAttachmentKey := (parsed.mediaObjectKey.map Nullable.value).getD .undefined
    resolvedAttachmentUrl := if url ≠ "" then .value url else .undefined }

/-- `!m.encryptedMessageKeys?.[deviceId]`. -/
def lacksSlot (m : Message) (deviceId : String) : Bool :=
  match m.encryptedMessageKeys with
  | .value keys => !hasDeviceKeyEntry keys deviceId
  | _ => true

section Decrypt

variable {PublicKey PrivateKey Seed : Type} (crypto : WebCrypto PublicKey PrivateKey Seed) (env : MediaEnv)

/-- The row decrypted for a device. -/
def decryptRow (m : Message) (deviceId : String) (pk : PrivateKey) : Except CryptoError CodeUnits :=
  match m.encryptedMessageKeys with
  | .value keys => decryptHybridMessageToUtf8 crypto (textOrEmpty m.body) (textOrEmpty m.iv) keys deviceId pk
  | _ => .error .typeError

/-- What the loop of a pass records for a row. -/
def decryptOutcome (m : Message) (deviceId : Option String) (pk : PrivateKey) : DecryptedBody :=
  match deviceId with
  | none => { plaintext := PEER_DECRYPT_NO_DEVICE_KEY_ENTRY }
  | some deviceId =>
      if lacksSlot m deviceId then { plaintext := PEER_DECRYPT_NO_DEVICE_KEY_ENTRY }
      else
        match decryptRow crypto m deviceId pk with
        | .ok pt => decryptedBodyOf env pt
        | .error _ => { plaintext := PEER_DECRYPT_CRYPTO_FAILED }

variable {crypto env}

/-- A row that decrypts has a slot. -/
theorem lacksSlot_of_decrypts {m : Message} {deviceId : String} {pk : PrivateKey} {pt : CodeUnits}
    (trimmed : EcmaText.trim deviceId = deviceId) (decrypts : decryptRow crypto m deviceId pk = .ok pt) :
    lacksSlot m deviceId = false := by
  unfold decryptRow at decrypts
  unfold lacksSlot
  cases keys : m.encryptedMessageKeys with
  | undefined => rw [keys] at decrypts; cases decrypts
  | null => rw [keys] at decrypts; cases decrypts
  | value keys' =>
    rw [keys] at decrypts
    dsimp only at decrypts ⊢
    unfold decryptHybridMessageToUtf8 wrappedKeyFor at decrypts
    rw [trimmed] at decrypts
    unfold hasDeviceKeyEntry
    cases read : readProperty keys' deviceId with
    | own wrapped =>
      rw [read] at decrypts
      dsimp only at decrypts ⊢
      by_cases nonblank : EcmaText.isNonBlank wrapped = true
      · have nonempty : wrapped ≠ "" := by
          rintro rfl
          exact absurd nonblank (by decide)
        simp [nonempty]
      · rw [if_neg nonblank] at decrypts
        cases decrypts
    | inherited => rfl
    | absent =>
      rw [read] at decrypts
      cases decrypts

/-- Such a row is recorded with its text. -/
theorem decryptOutcome_of_decrypts {m : Message} {deviceId : String} {pk : PrivateKey} {pt : CodeUnits}
    (trimmed : EcmaText.trim deviceId = deviceId) (decrypts : decryptRow crypto m deviceId pk = .ok pt) :
    decryptOutcome crypto env m (some deviceId) pk = decryptedBodyOf env pt := by
  unfold decryptOutcome
  dsimp only
  rw [lacksSlot_of_decrypts trimmed decrypts, if_neg Bool.false_ne_true, decrypts]

end Decrypt

section Targets

variable {s : MessagingState} {uid mid : String} {m : Message}

/-- Every row is stored under its id. -/
def Keyed (s : MessagingState) : Prop := ∀ id row, s.messagesById.get id = some row → row.id = id

theorem decryptTarget_eq_some_iff : decryptTarget s uid mid = some m ↔
    ∃ row, s.messagesById.get mid = some row ∧ row.toMessage = m ∧ isHybridE2eeMessage m = true ∧
      shouldRetryPeerDecryptAfterCachedFailure (s.decryptedBodyByMessageId.get mid) = true ∧
      ¬ (m.senderId = uid ∧ (s.senderPlaintextByMessageId.get mid).isSome) := by
  unfold decryptTarget
  cases held : s.messagesById.get mid with
  | none => simp
  | some row =>
    rw [Option.bind_some]
    constructor
    · intro taken
      split at taken
      · cases taken
      · split at taken
        · cases taken
        · split at taken
          · cases taken
          · cases taken
            refine ⟨row, rfl, rfl, ?_, ?_, ‹_›⟩
            · simpa using ‹¬ (!isHybridE2eeMessage row.toMessage) = true›
            · simpa using ‹¬ (!shouldRetryPeerDecryptAfterCachedFailure _) = true›
    · rintro ⟨other, same, rfl, hybrid, retry, foreign⟩
      cases same
      rw [hybrid, retry, if_neg (by simp), if_neg (by simp), if_neg foreign]

/-- A target is a row of the list that is not decrypted yet, under its id. -/
theorem mem_decryptTargets (keyed : Keyed s) {midList : List String} :
    m ∈ decryptTargets s uid midList ↔ m.id ∈ midList ∧ decryptTarget s uid m.id = some m := by
  unfold decryptTargets
  rw [List.mem_filterMap]
  constructor
  · rintro ⟨mid, listed, taken⟩
    obtain ⟨row, held, same, -⟩ := decryptTarget_eq_some_iff.mp taken
    have own : m.id = mid := by
      rw [← same]
      exact keyed mid row held
    rw [own]
    exact ⟨listed, taken⟩
  · rintro ⟨listed, taken⟩
    exact ⟨m.id, listed, taken⟩

end Targets

section Entries

/-- An entry of `t` is that of `s` or gone, and rows stay under their ids. -/
structure Undecrypted (s t : MessagingState) : Prop where
  entry : ∀ id, t.decryptedBodyByMessageId.get id = s.decryptedBodyByMessageId.get id ∨
    t.decryptedBodyByMessageId.get id = none
  keyed : Keyed s → Keyed t

variable {s t u : MessagingState}

theorem Undecrypted.of_rows (entries : t.decryptedBodyByMessageId = s.decryptedBodyByMessageId)
    (rows : ∀ id row, t.messagesById.get id = some row → row.id = id ∨ s.messagesById.get id = some row) :
    Undecrypted s t where
  entry id := .inl (by rw [entries])
  keyed keyed id row held := by
    rcases rows id row held with own | before
    · exact own
    · exact keyed id row before

theorem Undecrypted.of_eq (entries : t.decryptedBodyByMessageId = s.decryptedBodyByMessageId)
    (rows : t.messagesById = s.messagesById) : Undecrypted s t :=
  .of_rows entries fun id row held => .inr (by rwa [← rows])

theorem Undecrypted.trans (first : Undecrypted s t) (second : Undecrypted t u) : Undecrypted s u where
  entry id := by
    rcases second.entry id with same | gone
    · rw [same]
      exact first.entry id
    · exact .inr gone
  keyed keyed := second.keyed (first.keyed keyed)

theorem undecrypted_foldl {α : Type} {f : MessagingState → α → MessagingState}
    (step : ∀ s a, Undecrypted s (f s a)) (items : List α) (s : MessagingState) :
    Undecrypted s (items.foldl f s) := by
  induction items generalizing s with
  | nil => exact .of_eq rfl rfl
  | cons item rest ih => exact (step s item).trans (ih (f s item))

theorem undecrypted_storeAndList (s : MessagingState) (c : String) (m : StoredMessage) :
    Undecrypted s (storeAndList s c m) := by
  apply Undecrypted.of_rows
  · unfold storeAndList
    dsimp only
    split <;> rfl
  · intro id row held
    rw [(storeAndList_effects s c m).2.2.1] at held
    split at held
    · rename_i same
      cases held
      exact .inl same.symm
    · exact .inr held

theorem undecrypted_appendMessageFromSend (s : MessagingState) (c : String) (m : StoredMessage) :
    Undecrypted s (appendMessageFromSend s c m) := by
  unfold appendMessageFromSend
  dsimp only
  split
  · exact (undecrypted_storeAndList s c m).trans (.of_eq rfl rfl)
  · exact undecrypted_storeAndList s c m

theorem undecrypted_promoteOptimistic (s : MessagingState) (o : String) (m : Message)
    (optimistic : Option StoredMessage) : Undecrypted s (promoteOptimistic s o m optimistic) := by
  apply Undecrypted.of_rows
  · unfold promoteOptimistic setSenderPlaintextAfterOptimisticMerge
    dsimp only
    split <;> rfl
  · intro id row held
    rw [(promoteOptimistic_effects s o m optimistic).2.2.1, Record.get_set] at held
    split at held
    · rename_i same
      cases held
      exact .inl ((mergeServerMessage_frame m optimistic).1.trans same.symm)
    · rw [Record.get_delete] at held
      split at held
      · cases held
      · exact .inr held

theorem undecrypted_appendPlainIncoming (s : MessagingState) (m : Message) (own : Bool) :
    Undecrypted s (appendPlainIncoming s m own) := by
  unfold appendPlainIncoming
  dsimp only
  split
  · exact (undecrypted_storeAndList s _ _).trans (.of_eq rfl rfl)
  · exact undecrypted_storeAndList s _ _

theorem undecrypted_appendIncoming (s : MessagingState) (m : Message) (user : Option String) :
    Undecrypted s (appendIncomingMessageIfNew s m user) := by
  have pruned : ∀ c queue, Undecrypted s (s.setPending c queue) := fun _ _ => .of_eq rfl rfl
  unfold appendIncomingMessageIfNew
  dsimp only
  split
  · exact .of_eq rfl rfl
  · split
    · split
      · split
        · exact ((pruned _ _).trans (undecrypted_promoteOptimistic _ _ m _)).trans (.of_eq rfl rfl)
        · exact (pruned _ _).trans (undecrypted_appendPlainIncoming _ m _)
      · exact (pruned _ _).trans (undecrypted_appendPlainIncoming _ m _)
    · exact undecrypted_appendPlainIncoming s m _

theorem undecrypted_replaceOptimistic (s : MessagingState) (c o : String) (m : Message) :
    Undecrypted s (replaceOptimisticMessage s c o m) := by
  have unqueued : ∀ queue, Undecrypted s (s.setPending c queue) := fun _ => .of_eq rfl rfl
  unfold replaceOptimisticMessage
  dsimp only
  split
  · exact ((unqueued _).trans (undecrypted_promoteOptimistic _ o m _)).trans (.of_eq rfl rfl)
  · split
    · exact (unqueued _).trans (undecrypted_promoteOptimistic _ o m _)
    · exact ((unqueued _).trans (undecrypted_promoteOptimistic _ o m _)).trans (.of_eq rfl rfl)

theorem undecrypted_removeOptimistic (s : MessagingState) (c o : String) :
    Undecrypted s (removeOptimisticMessage s c o) := by
  apply Undecrypted.of_rows
  · rfl
  · intro id row held
    rw [(removeOptimisticMessage_effects s c o).2.2.1] at held
    split at held
    · cases held
    · exact .inr held

theorem undecrypted_hydrateRow (selfId : String) (s : MessagingState) (m : Message) :
    Undecrypted s (hydrateRow selfId s m) := by
  have rows : ∀ (body : Nullable String) id row,
      (s.messagesById.set (mergeHydrateFetchedWithExisting (s.messagesById.get m.id) m).id
        { mergeHydrateFetchedWithExisting (s.messagesById.get m.id) m with body := body }).get id = some row →
      row.id = id ∨ s.messagesById.get id = some row := by
    intro body id row held
    rw [Record.get_set] at held
    split at held
    · rename_i same
      cases held
      exact .inl same.symm
    · exact .inr held
  unfold hydrateRow
  dsimp only
  split
  · exact .of_rows rfl (rows _)
  · exact .of_rows rfl (rows _)

theorem undecrypted_dropRow (s : MessagingState) (id : String) : Undecrypted s (s.dropRow id) where
  entry j := by
    rw [MessagingState.dropRow_decryptedBodyByMessageId, Record.get_delete]
    split
    · exact .inr rfl
    · exact .inl rfl
  keyed keyed j row held := by
    rw [MessagingState.dropRow_messagesById, Record.get_delete] at held
    split at held
    · cases held
    · exact keyed j row held

theorem undecrypted_hydrate (s : MessagingState) (c : String) (messages : List Message)
    (user : Option String) : Undecrypted s (hydrateMessagesFromFetch s c messages user) := by
  have dropped : ∀ newIds, Undecrypted s (dropRows newIds (s.idsOf c) s) := by
    intro newIds
    unfold dropRows
    apply undecrypted_foldl
    intro s id
    split
    · exact .of_eq rfl rfl
    · exact undecrypted_dropRow s id
  unfold hydrateMessagesFromFetch
  dsimp only
  have kept := (dropped (messages.reverse.map fun m => m.id)).trans
    (u := (dropRows (messages.reverse.map fun m => m.id) (s.idsOf c) s).setIds c
      (messages.reverse.map fun m => m.id)) (.of_eq rfl rfl)
  exact (kept.trans (undecrypted_foldl (undecrypted_hydrateRow _) messages.reverse _)).trans (.of_eq rfl rfl)

theorem undecrypted_mergeReceipts (s : MessagingState) (merge : ReceiptMerge) :
    Undecrypted s (mergeReceipts s merge) := by
  cases merge with
  | mergeReceiptFanoutFromSocket payload kind =>
    unfold mergeReceipts mergeReceiptFanoutFromSocket
    dsimp only
    split
    · exact .of_eq rfl rfl
    · split
      · exact .of_eq rfl rfl
      · exact .of_eq rfl rfl
  | mergeReceiptSummariesFromFetch conversationId items =>
    unfold mergeReceipts mergeReceiptSummariesFromFetch
    dsimp only
    split
    · exact .of_eq rfl rfl
    · apply undecrypted_foldl
      intro s item
      unfold mergeFetchedSummary
      split
      · exact .of_eq rfl rfl
      · exact .of_eq rfl rfl

/-- The actions that only a decrypt pass dispatches. -/
def StoreAction.isDecryptedBody : StoreAction → Bool
  | .setPeerDecryptedBody .. => true
  | _ => false

/-- Every other action leaves an entry or removes it. -/
theorem storeReducer_undecrypted (s : MessagingState) {action : StoreAction}
    (other : action.isDecryptedBody = false) : Undecrypted s (storeReducer s action) := by
  cases action with
  | thread action =>
    cases action with
    | appendMessageFromSend c m => exact undecrypted_appendMessageFromSend s c m
    | appendIncomingMessageIfNew m user => exact undecrypted_appendIncoming s m user
    | replaceOptimisticMessage c o m => exact undecrypted_replaceOptimistic s c o m
    | removeOptimisticMessage c o => exact undecrypted_removeOptimistic s c o
    | hydrateMessagesFromFetch c messages user => exact undecrypted_hydrate s c messages user
    | recordOwnSendPlaintext messageId plaintext =>
      unfold storeReducer messagingReducer recordOwnSendPlaintext
      dsimp only
      split
      · exact .of_eq rfl rfl
      · exact .of_eq rfl rfl
  | receipts merge => exact undecrypted_mergeReceipts s merge
  | setPeerDecryptedBody => cases other
  | hydrateSenderPlaintextFromDisk => exact .of_eq rfl rfl
  | resetMessaging =>
    constructor
    · intro id
      exact .inr (Record.get_empty id)
    · intro _ id row held
      cases (Record.get_empty id).symm.trans held

end Entries

end MessagingSystem.Source.Client

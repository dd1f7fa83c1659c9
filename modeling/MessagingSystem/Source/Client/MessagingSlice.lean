import Mathlib.Tactic.Simps.Basic
import MessagingSystem.Foundation.IdList
import MessagingSystem.Source.Client.Message

/-!
# The messaging slice

The normalized thread state of `messagingSlice.ts` and the reducers that keep
it: the optimistic append, the two reconciliations of an optimistic row (the
`message:send` ack and an own `message:new`), the removal after a failed send
and the hydration from `GET /conversations/{id}/messages`. Fields that none of
these reducers reads or writes (active conversation, scroll target, send
errors) are left out.
-/
namespace MessagingSystem.Source.Client
open Foundation

inductive OutboundReceiptLevel where
  | loading | sent | delivered | seen
  deriving DecidableEq

structure MessageReceiptEntry where
  deliveredAt : Option String
  seenAt : Option String
  deriving DecidableEq

structure MessageReceiptSummary where
  messageId : String
  conversationId : String
  createdAt : String
  receiptsByUserId : Option (Record MessageReceiptEntry)
  deriving DecidableEq

structure MessagingState where
  messagesById : Record StoredMessage := ∅
  messageIdsByConversationId : Record (List String) := ∅
  pendingOutgoingClientIdsByConversationId : Record (List String) := ∅
  outboundReceiptByMessageId : Record OutboundReceiptLevel := ∅
  receiptsByMessageId : Record MessageReceiptSummary := ∅
  senderPlaintextByMessageId : Record String := ∅
  decryptedBodyByMessageId : Record String := ∅
  decryptedAttachmentKeyByMessageId : Record String := ∅
  decryptedAttachmentUrlByMessageId : Record String := ∅
  deriving DecidableEq

def initialState : MessagingState := {}

/-- `message.id.startsWith('client:')`. -/
def isClientId (id : String) : Bool := EcmaText.startsWith id "client:"

/-- Drop duplicate ids, first occurrence wins. -/
def dedupeIdsStable (ids : List String) : List String := IdList.keepFirst ids

namespace MessagingState

/-- `state.messageIdsByConversationId[c] ?? []`. -/
def idsOf (state : MessagingState) (conversationId : String) : List String :=
  (state.messageIdsByConversationId.get conversationId).getD []

/-- `state.pendingOutgoingClientIdsByConversationId[c] ?? []`. -/
def pendingOf (state : MessagingState) (conversationId : String) : List String :=
  (state.pendingOutgoingClientIdsByConversationId.get conversationId).getD []

@[simps] def setIds (state : MessagingState) (conversationId : String) (ids : List String) :
    MessagingState :=
  { state with
    messageIdsByConversationId := state.messageIdsByConversationId.set conversationId ids }

@[simps] def setPending (state : MessagingState) (conversationId : String) (queue : List String) :
    MessagingState :=
  { state with
    pendingOutgoingClientIdsByConversationId :=
      state.pendingOutgoingClientIdsByConversationId.set conversationId queue }

@[simps] def setOutbound (state : MessagingState) (id : String) (level : OutboundReceiptLevel) :
    MessagingState :=
  { state with outboundReceiptByMessageId := state.outboundReceiptByMessageId.set id level }

@[simps] def setMessage (state : MessagingState) (id : String) (m : StoredMessage) : MessagingState :=
  { state with messagesById := state.messagesById.set id m }

/-- The three `delete` statements that take an optimistic row out of the maps. -/
@[simps] def deleteOptimistic (state : MessagingState) (id : String) : MessagingState :=
  { state with
    messagesById := state.messagesById.delete id
    outboundReceiptByMessageId := state.outboundReceiptByMessageId.delete id
    receiptsByMessageId := state.receiptsByMessageId.delete id }

/-- The seven `delete` statements for a row the fetched page does not list. -/
@[simps] def dropRow (state : MessagingState) (id : String) : MessagingState :=
  { state with
    messagesById := state.messagesById.delete id
    outboundReceiptByMessageId := state.outboundReceiptByMessageId.delete id
    receiptsByMessageId := state.receiptsByMessageId.delete id
    senderPlaintextByMessageId := state.senderPlaintextByMessageId.delete id
    decryptedBodyByMessageId := state.decryptedBodyByMessageId.delete id
    decryptedAttachmentKeyByMessageId := state.decryptedAttachmentKeyByMessageId.delete id
    decryptedAttachmentUrlByMessageId := state.decryptedAttachmentUrlByMessageId.delete id }

end MessagingState

/-- When the server ack carries ciphertext but the optimistic row had
plaintext, keep the plaintext. -/
def mergeOwnHybridWireBodyFromOptimistic (serverMsg : Message) (optimisticBody : Nullable String) :
    Message :=
  if !isTruthy serverMsg.body then serverMsg
  else
    match optimisticBody with
    | .value ob =>
        if !EcmaText.isNonBlank ob then serverMsg
        else if !isMessageWireE2ee serverMsg then serverMsg
        else { serverMsg with body := .value ob }
    | _ => serverMsg

/-- Carry the client-only fields of the optimistic row over to the server row. -/
def mergeServerMessageWithOptimisticClientFields (serverMsg : Message)
    (optimistic : Option StoredMessage) : StoredMessage :=
  let bodyMerged :=
    match optimistic with
    | some row => mergeOwnHybridWireBodyFromOptimistic serverMsg row.body
    | none => serverMsg
  let preview := (optimistic.map fun row => trimOrEmpty row.mediaPreviewUrl).getD ""
  let serverMk := trimOrEmpty serverMsg.mediaKey
  let optMk := (optimistic.map fun row => trimOrEmpty row.mediaKey).getD ""
  let mediaKey :=
    if serverMk ≠ "" then serverMsg.mediaKey
    else if optMk ≠ "" then (optimistic.map fun row => row.mediaKey).getD .null
    else .null
  let withKey := { bodyMerged with mediaKey := mediaKey }
  if preview ≠ "" then { toMessage := withKey, mediaPreviewUrl := .value preview }
  else withKey.toStored

/-- The typing-time plaintext recorded when an optimistic row gets its server
id: the optimistic body, else a merged body that is not ciphertext. -/
def plaintextAfterOptimisticMerge (merged : StoredMessage) (optimisticPrev : Option StoredMessage) :
    String :=
  let fromOptimistic := (optimisticPrev.map fun row => textOrEmpty row.body).getD ""
  let fromMerged := if isMessageWireE2ee merged.toMessage then "" else textOrEmpty merged.body
  if fromOptimistic ≠ "" then fromOptimistic else fromMerged

def setSenderPlaintextAfterOptimisticMerge (state : MessagingState) (serverMessageId : String)
    (merged : StoredMessage) (optimisticPrev : Option StoredMessage) : MessagingState :=
  let plain := plaintextAfterOptimisticMerge merged optimisticPrev
  if plain ≠ "" then
    { state with
      senderPlaintextByMessageId := state.senderPlaintextByMessageId.set serverMessageId plain }
  else state

def mergeHydrateMediaKey (existing : StoredMessage) (fetched : Message) : Nullable String :=
  let serverMk := trimOrEmpty fetched.mediaKey
  if serverMk ≠ "" then fetched.mediaKey.orNull
  else
    let retained := trimOrEmpty existing.mediaKey
    if retained ≠ "" then existing.mediaKey.orNull else fetched.mediaKey.orNull

/-- `m.encryptedMessageKeys ? Object.keys(m.encryptedMessageKeys).length : 0`. -/
def encryptedMessageKeyCount (m : Message) : Nat :=
  match m.encryptedMessageKeys with
  | .value keys => keys.size
  | _ => 0

/-- A fetched row merged with the row held for the same id, so that a page
that lags behind Socket.IO does not lose the envelope. -/
def mergeHydrateFetchedWithExisting (existing : Option StoredMessage) (fetched : Message) :
    StoredMessage :=
  match existing with
  | none => fetched.toStored
  | some existing =>
    let pv := trimOrEmpty existing.mediaPreviewUrl
    let pvOut : Nullable String := if pv ≠ "" then .value pv else .undefined
    let mediaKeyMerged := mergeHydrateMediaKey existing fetched
    let envelopeKept : StoredMessage :=
      { fetched with
        body := fetched.body.orElse existing.body
        iv := (existing.iv.orElse fetched.iv).orNull
        algorithm := (existing.algorithm.orElse fetched.algorithm).orNull
        encryptedMessageKeys := existing.encryptedMessageKeys
        mediaKey := mediaKeyMerged
        mediaPreviewUrl := pvOut }
    if isMessageWireE2ee existing.toMessage && !isMessageWireE2ee fetched then envelopeKept
    else if isMessageWireE2ee existing.toMessage &&
        decide (0 < encryptedMessageKeyCount existing.toMessage) &&
        encryptedMessageKeyCount fetched == 0 then envelopeKept
    else { fetched with mediaKey := mediaKeyMerged, mediaPreviewUrl := pvOut }

/-- The loop body of the hydration for one fetched row. -/
def hydrateRow (selfId : String) (state : MessagingState) (m : Message) : MessagingState :=
  let merged := mergeHydrateFetchedWithExisting (state.messagesById.get m.id) m
  let isOwn := selfId ≠ "" ∧ merged.senderId = selfId
  let body :=
    if isOwn ∧ isTruthy merged.body ∧ isMessageWireE2ee merged.toMessage then
      match state.senderPlaintextByMessageId.get merged.id with
      | some plain => if plain ≠ "" then .value plain else merged.body
      | none => merged.body
    else merged.body
  let stored := state.setMessage merged.id { merged with body := body.orNull }
  if isOwn then stored.setOutbound merged.id .sent else stored

/-- The loop over the rows held before: those the page does not list are dropped. -/
def dropRows (newIds prevIds : List String) (state : MessagingState) : MessagingState :=
  prevIds.foldl (fun s id => if newIds.contains id then s else s.dropRow id) state

/-- Replaces the in-memory thread from `GET /conversations/{id}/messages`
(newest first on the wire, oldest first in the state). -/
def hydrateMessagesFromFetch (state : MessagingState) (conversationId : String)
    (messages : List Message) (currentUserId : Option String) : MessagingState :=
  let selfId := EcmaText.trim (currentUserId.getD "")
  let prevIds := state.idsOf conversationId
  let ordered := messages.reverse
  let newIds := ordered.map fun m => m.id
  let kept := dropRows newIds prevIds state
  let hydrated := ordered.foldl (hydrateRow selfId) (kept.setIds conversationId newIds)
  { hydrated with
    pendingOutgoingClientIdsByConversationId :=
      hydrated.pendingOutgoingClientIdsByConversationId.delete conversationId }

/-- The two statements every append starts with: the row is stored and, unless
the thread lists it already, listed last. -/
def storeAndList (state : MessagingState) (conversationId : String) (message : StoredMessage) :
    MessagingState :=
  let ids := state.idsOf conversationId
  let withRow := state.setMessage message.id message
  if message.id ∈ ids then withRow else withRow.setIds conversationId (ids ++ [message.id])

def appendMessageFromSend (state : MessagingState) (conversationId : String)
    (message : StoredMessage) : MessagingState :=
  let listed := storeAndList state conversationId message
  if isClientId message.id then
    (listed.setPending conversationId (listed.pendingOf conversationId ++ [message.id])).setOutbound
      message.id .loading
  else listed

/-- The statements both reconciliations share: the optimistic row is deleted,
the merged server row stored as sent, the typed plaintext recorded. -/
def promoteOptimistic (state : MessagingState) (optimisticId : String) (message : Message)
    (optimistic : Option StoredMessage) : MessagingState :=
  let merged := mergeServerMessageWithOptimisticClientFields message optimistic
  let promoted :=
    ((state.deleteOptimistic optimisticId).setMessage message.id merged).setOutbound message.id .sent
  setSenderPlaintextAfterOptimisticMerge promoted message.id merged optimistic

/-- The queue after the stale heads are shifted off: a head stays when the
thread lists it or its row is still held. -/
def pruneQueue (state : MessagingState) (ids queue : List String) : List String :=
  queue.dropWhile fun head => !(ids.contains head) && (state.messagesById.get head).isNone

/-- A message that is not reconciled with an optimistic row. -/
def appendPlainIncoming (state : MessagingState) (message : Message) (isOwn : Bool) :
    MessagingState :=
  let listed := storeAndList state message.conversationId message.toStored
  if isOwn && (listed.outboundReceiptByMessageId.get message.id).isNone then
    listed.setOutbound message.id .sent
  else listed

/-- Appends a `message:new` that is not held yet; an own message takes the
place of the oldest optimistic row of its conversation. -/
def appendIncomingMessageIfNew (state : MessagingState) (message : Message)
    (currentUserId : Option String) : MessagingState :=
  if (state.messagesById.get message.id).isSome then state
  else
    let conversationId := message.conversationId
    let ids := state.idsOf conversationId
    let selfId := EcmaText.trim (currentUserId.getD "")
    let isOwn := decide (selfId ≠ "" ∧ message.senderId = selfId)
    if isOwn then
      let q := pruneQueue state ids (state.pendingOf conversationId)
      let pruned := state.setPending conversationId q
      match q with
      | optimisticId :: rest =>
          match pruned.messagesById.get optimisticId with
          | some optimistic =>
              let promoted := promoteOptimistic pruned optimisticId message (some optimistic)
              let next :=
                if optimisticId ∈ ids then ids.set (ids.idxOf optimisticId) message.id
                else
                  let withoutOpt := ids.filter (· ≠ optimisticId)
                  if message.id ∈ ids then withoutOpt else withoutOpt ++ [message.id]
              (promoted.setIds conversationId (dedupeIdsStable next)).setPending conversationId rest
          | none => appendPlainIncoming pruned message isOwn
      | [] => appendPlainIncoming pruned message isOwn
    else appendPlainIncoming state message isOwn

/-- Records the typed text of a first direct message, which has no optimistic row. -/
def recordOwnSendPlaintext (state : MessagingState) (messageId plaintext : String) :
    MessagingState :=
  let messageId := EcmaText.trim messageId
  if messageId = "" ∨ plaintext = "" then state
  else
    { state with
      senderPlaintextByMessageId := state.senderPlaintextByMessageId.set messageId plaintext }

/-- Replaces an optimistic id with the `Message` of the `message:send` ack. -/
def replaceOptimisticMessage (state : MessagingState) (conversationId optimisticId : String)
    (message : Message) : MessagingState :=
  let pq := state.pendingOf conversationId
  let unqueued := state.setPending conversationId (pq.filter (· ≠ optimisticId))
  let ids := unqueued.idsOf conversationId
  let prev := unqueued.messagesById.get optimisticId
  let promoted := promoteOptimistic unqueued optimisticId message prev
  if optimisticId ∈ ids then
    promoted.setIds conversationId (dedupeIdsStable (ids.set (ids.idxOf optimisticId) message.id))
  else if message.id ∈ ids then promoted
  else promoted.setIds conversationId (ids ++ [message.id])

def removeOptimisticMessage (state : MessagingState) (conversationId clientId : String) :
    MessagingState :=
  let unqueued :=
    state.setPending conversationId ((state.pendingOf conversationId).filter (· ≠ clientId))
  let unlisted :=
    unqueued.setIds conversationId ((unqueued.idsOf conversationId).filter (· ≠ clientId))
  unlisted.deleteOptimistic clientId

/-- The actions of the five thread reducers and of `recordOwnSendPlaintext`. -/
inductive MessagingAction where
  | appendMessageFromSend (conversationId : String) (message : StoredMessage)
  | appendIncomingMessageIfNew (message : Message) (currentUserId : Option String)
  | replaceOptimisticMessage (conversationId optimisticId : String) (message : Message)
  | removeOptimisticMessage (conversationId clientId : String)
  | hydrateMessagesFromFetch (conversationId : String) (messages : List Message)
      (currentUserId : Option String)
  | recordOwnSendPlaintext (messageId plaintext : String)

def messagingReducer (state : MessagingState) : MessagingAction → MessagingState
  | .appendMessageFromSend conversationId message =>
      appendMessageFromSend state conversationId message
  | .appendIncomingMessageIfNew message currentUserId =>
      appendIncomingMessageIfNew state message currentUserId
  | .replaceOptimisticMessage conversationId optimisticId message =>
      replaceOptimisticMessage state conversationId optimisticId message
  | .removeOptimisticMessage conversationId clientId =>
      removeOptimisticMessage state conversationId clientId
  | .hydrateMessagesFromFetch conversationId messages currentUserId =>
      hydrateMessagesFromFetch state conversationId messages currentUserId
  | .recordOwnSendPlaintext messageId plaintext => recordOwnSendPlaintext state messageId plaintext

end MessagingSystem.Source.Client

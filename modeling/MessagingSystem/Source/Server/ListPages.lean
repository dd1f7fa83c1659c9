import MessagingSystem.Foundation.KeysetScan
import MessagingSystem.Source.Server.ListCursor
import MessagingSystem.Source.Server.ReceiptSummary
import MessagingSystem.Source.Server.SyncPages

/-!
# Pages of the lists

`listConversationsForUser`, `listMessagesForParticipant` and
`listMessageReceiptsForParticipant`: the newest rows first, at most the clamped
limit of them, after the place that the cursor names.
-/
namespace MessagingSystem.Source.Server
open Foundation

structure ListPage (β : Type) where
  items : List β
  nextCursor : Option String
  hasMore : Bool

/-- The order of `{ <time>: -1, id: -1 }`. -/
def ListCursor.newestFirst (place : ListCursor) : (Nat ×ₗ String)ᵒᵈ :=
  OrderDual.toDual (toLex (place.time, place.id))

/-- The `$or` of a cursor: an earlier time, or the same one and a smaller id. -/
def ListCursor.isOlder (cursor place : ListCursor) : Bool :=
  place.time < cursor.time || (place.time = cursor.time && place.id < cursor.id)

section Pages

variable {α β : Type} (place : α → ListCursor)

/-- The order of a list. -/
def listKey (a : α) : (Nat ×ₗ String)ᵒᵈ := (place a).newestFirst

/-- `find(filter).sort(newest first).limit(cap + 1)`, cut to `cap` rows. -/
def listNewestFirst (filter : α → Bool) (limit : Nat) (rows : List α) : List α × Bool :=
  let cap := pageCap limit
  let docs := ((rows.filter filter).insertionSort fun a b => listKey place a ≤ listKey place b).take (cap + 1)
  let hasMore := decide (cap < docs.length)
  (if hasMore then docs.take cap else docs, hasMore)

/-- What a list answers for the rows it has found. -/
def listResult (encode : ListCursor → String) (toApi : α → β) (found : List α × Bool) : ListPage β where
  items := found.1.map toApi
  nextCursor := if found.2 then found.1.getLast?.map fun last => encode (place last) else none
  hasMore := found.2

end Pages

section Conversations

/-- `Conversation` of the REST API. -/
structure ApiConversation where
  id : String
  title : Option String
  isGroup : Bool
  peerUserId : Option String
  updatedAt : String
  deriving DecidableEq

def directConversationDocumentToApi (currentUserId : String) (doc : ConversationDocument) : ApiConversation where
  id := doc.id
  title := none
  isGroup := false
  peerUserId := doc.participantIds.find? fun id => id ≠ currentUserId
  updatedAt := EcmaDate.toISOString doc.updatedAt

def ConversationDocument.place (doc : ConversationDocument) : ListCursor := ⟨doc.updatedAt, doc.id⟩

def buildParticipantConversationsFilter (userId : String) (cursor : Option ListCursor)
    (doc : ConversationDocument) : Bool :=
  (doc.participantIds.contains userId && !doc.isGroup) && cursor.all fun c => c.isOlder doc.place

def listDirectConversationsForParticipant (db : Database) (userId : String) (limit : Nat)
    (cursor : Option ListCursor) : List ConversationDocument × Bool :=
  listNewestFirst ConversationDocument.place (buildParticipantConversationsFilter userId cursor) limit
    db.conversations

def listConversationsForUser (dateParse : String → Option Nat) (userId : String) (limit : Nat)
    (db : Database) (cursor : Option String) : Except AppError (ListPage ApiConversation) := do
  let boundary ← cursorBoundary (parseConversationListCursor dateParse) cursor
  pure (listResult ConversationDocument.place encodeConversationListCursor
    (directConversationDocumentToApi userId) (listDirectConversationsForParticipant db userId limit boundary))

end Conversations

section Messages

def MessageDocument.place (doc : MessageDocument) : ListCursor := ⟨doc.createdAt, doc.id⟩

def buildConversationMessagesFilter (conversationId : String) (cursor : Option ListCursor)
    (doc : MessageDocument) : Bool :=
  decide (doc.conversationId = conversationId) && cursor.all fun c => c.isOlder doc.place

def listMessagesByConversation (db : Database) (conversationId : String) (limit : Nat)
    (cursor : Option ListCursor) : List MessageDocument × Bool :=
  listNewestFirst MessageDocument.place (buildConversationMessagesFilter conversationId cursor) limit db.messages

/-- The query is that of the messages, with fewer fields of each. -/
def listMessageReceiptSummariesByConversation (db : Database) (conversationId : String) (limit : Nat)
    (cursor : Option ListCursor) : List MessageDocument × Bool :=
  listNewestFirst MessageDocument.place (buildConversationMessagesFilter conversationId cursor) limit db.messages

/-- The thread of a list, for one of its participants. -/
def listedConversation (userId conversationId : String) : ServerProgram ConversationDocument := do
  let conv ← requireDirectThread conversationId
  assertParticipant userId conv
  pure conv

def listMessagesForParticipant (dateParse : String → Option Nat) (userId conversationId : String) (limit : Nat)
    (db : Database) (cursor : Option String) : Except AppError (ListPage Json) := do
  let boundary ← cursorBoundary (parseMessageListCursor dateParse) cursor
  let conv ← (ServerProgram.exec (listedConversation userId conversationId) db).1
  pure (listResult MessageDocument.place encodeMessageListCursor messageDocumentToApi
    (listMessagesByConversation db conv.id limit boundary))

structure ReceiptListPage extends ListPage Client.MessageReceiptSummary where
  /-- `lastReadMessageId` and `lastReadAt`. -/
  readCursor : Option (String × String)

def listMessageReceiptsForParticipant (dateParse : String → Option Nat) (userId conversationId : String)
    (limit : Nat) (db : Database) (cursor : Option String) : Except AppError ReceiptListPage := do
  let boundary ← cursorBoundary (parseMessageListCursor dateParse) cursor
  let conv ← (ServerProgram.exec (listedConversation userId conversationId) db).1
  let page := listResult MessageDocument.place encodeMessageListCursor messageReceiptSummaryToApi
    (listMessageReceiptSummariesByConversation db conv.id limit boundary)
  let readDoc := db.findReadRow userId conv.id
  pure { page with readCursor := readDoc.map fun row => (row.lastReadMessageId, EcmaDate.toISOString row.lastReadAt) }

end Messages

section Lists

variable {α β : Type} {place : α → ListCursor} {dateParse : String → Option Nat}

theorem newestFirst_lt_iff (cursor place : ListCursor) :
    cursor.newestFirst < place.newestFirst ↔ cursor.isOlder place = true := by
  unfold ListCursor.newestFirst ListCursor.isOlder
  rw [OrderDual.toDual_lt_toDual, Prod.Lex.toLex_lt_toLex]
  simp

theorem listNewestFirst_eq_page (keep : α → Bool) (limit : Nat) (cursor : Option ListCursor) (rows : List α) :
    listNewestFirst place (fun a => keep a && cursor.all fun c => c.isOlder (place a)) limit rows =
      Keyset.page (listKey place) (pageCap limit) (cursor.map ListCursor.newestFirst)
        (rows.filter keep) := by
  have filtered : rows.filter (fun a => keep a && cursor.all fun c => c.isOlder (place a)) =
      (rows.filter keep).filter
        (Keyset.isAfter (listKey place) (cursor.map ListCursor.newestFirst)) := by
    rw [List.filter_filter]
    apply List.filter_congr
    intro a _
    rw [Bool.and_comm]
    congr 1
    cases cursor with
    | none => rfl
    | some c =>
      unfold Keyset.isAfter
      simp [listKey, newestFirst_lt_iff]
  unfold listNewestFirst Keyset.page Keyset.sorted
  dsimp only
  rw [filtered]
  split
  · rfl
  · rename_i few
    have short := not_lt.mp fun less => few (decide_eq_true less)
    rw [List.take_of_length_le short]

/-- Rows that a list can page through. -/
structure Listable (place : α → ListCursor) (rows : List α) : Prop where
  ids : (rows.map fun a => (place a).id).Nodup
  plain : ∀ a ∈ rows, (place a).Plain

theorem Listable.keys {rows : List α} (listable : Listable place rows) : (rows.map (listKey place)).Nodup := by
  have ids : (rows.map (listKey place)).map (fun k => (ofLex (OrderDual.ofDual k)).2) =
      rows.map fun a => (place a).id := by
    rw [List.map_map]
    rfl
  exact List.Nodup.of_map _ (ids ▸ listable.ids)

theorem Listable.filter {rows : List α} (listable : Listable place rows) (keep : α → Bool) :
    Listable place (rows.filter keep) :=
  ⟨listable.ids.sublist (List.filter_sublist.map _), fun a member => listable.plain a (List.mem_of_mem_filter member)⟩

/-- The endpoint answers pages of the rows. -/
def Lists (dateParse : String → Option Nat) (place : α → ListCursor) (toApi : α → β) (limit : Nat)
    (rows : List α) (endpoint : Option String → Except AppError (ListPage β)) : Prop :=
  ∀ cursor boundary, cursorBoundary (parseListCursor dateParse) cursor = .ok boundary →
    endpoint cursor = .ok (listResult place encodeListCursor toApi
      (Keyset.page (listKey place) (pageCap limit) (boundary.map ListCursor.newestFirst) rows))

/-- The direct threads of a user. -/
def Database.directConversations (db : Database) (userId : String) : List ConversationDocument :=
  db.conversations.filter fun c => c.participantIds.contains userId && !c.isGroup

/-- The messages of a thread. -/
def Database.messagesIn (db : Database) (conversationId : String) : List MessageDocument :=
  db.messages.filter fun m => m.conversationId = conversationId

theorem listConversationsForUser_lists (userId : String) (limit : Nat) (db : Database) :
    Lists dateParse ConversationDocument.place (directConversationDocumentToApi userId) limit
      (db.directConversations userId) (listConversationsForUser dateParse userId limit db) := by
  intro cursor boundary parsed
  unfold listConversationsForUser parseConversationListCursor
  rw [parsed]
  exact congrArg (fun found => Except.ok (listResult _ _ _ found)) (listNewestFirst_eq_page _ limit boundary _)

/-- The thread is direct and the user one of its participants. -/
def Database.Participates (db : Database) (userId conversationId : String) (conv : ConversationDocument) : Prop :=
  directThread conversationId db = some conv ∧ conv.participantIds.contains userId = true

variable {db : Database} {userId conversationId : String} {conv : ConversationDocument}

theorem listedConversation_exec (participates : db.Participates userId conversationId conv) :
    (ServerProgram.exec (listedConversation userId conversationId) db).1 = .ok conv := by
  have answers := requireDirectThread_answers db conversationId
  rw [participates.1] at answers
  have found : (requireDirectThread conversationId).run ServerCommand.exec db = (.ok conv, db) := answers
  unfold ServerProgram.exec listedConversation assertParticipant
  rw [Program.run_bind, found]
  simp only [participates.2, Program.run_bind, Program.run_require, if_true, Program.run_pure]

theorem listMessagesForParticipant_lists (participates : db.Participates userId conversationId conv) (limit : Nat) :
    Lists dateParse MessageDocument.place messageDocumentToApi limit (db.messagesIn conv.id)
      (listMessagesForParticipant dateParse userId conversationId limit db) := by
  intro cursor boundary parsed
  unfold listMessagesForParticipant parseMessageListCursor
  rw [parsed, listedConversation_exec participates]
  exact congrArg (fun found => Except.ok (listResult _ _ _ found)) (listNewestFirst_eq_page _ limit boundary _)

theorem listMessageReceiptsForParticipant_lists (participates : db.Participates userId conversationId conv)
    (limit : Nat) :
    Lists dateParse MessageDocument.place messageReceiptSummaryToApi limit (db.messagesIn conv.id) fun cursor =>
      (listMessageReceiptsForParticipant dateParse userId conversationId limit db cursor).map
        ReceiptListPage.toListPage := by
  intro cursor boundary parsed
  dsimp only
  unfold listMessageReceiptsForParticipant parseMessageListCursor
  rw [parsed, listedConversation_exec participates]
  exact congrArg (fun found => Except.ok (listResult _ _ _ found)) (listNewestFirst_eq_page _ limit boundary _)

end Lists

end MessagingSystem.Source.Server

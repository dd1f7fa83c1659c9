import Mathlib.Data.List.Basic
import MessagingSystem.Protocol.ReceiptFanOut
import MessagingSystem.Source.Server.SendOutcomes

/-!
# Who may stand in the stores

Sends and receipt events of any actors, one after another. Senders are
participants of their threads, receipts belong to the other participant, and a
read cursor names a message of the other one; a rejected request changes nothing.
`conversation:read` looks its message up under the trimmed id and stores the id
as it came, so a padded id leaves a cursor that names no message.
-/
namespace MessagingSystem.Guarantees.StoreAuthorization
open Foundation Source.Server Protocol

inductive StoreRequest where
  | send (sender : UserId) (payload : SendMessageRequest) (stamp : SendStamp)
      (originSocketId : Option String)
  | receipt (event : ReceiptEvent)

/-- The error a request ends with, if any, and the store it leaves. -/
def StoreRequest.serve : StoreRequest → Database → Option AppError × Database
  | .send sender payload stamp originSocketId, db =>
      match ServerProgram.exec (sendMessageForUser sender.val payload stamp originSocketId) db with
      | (.ok _, after) => (none, after)
      | (.error e, after) => (some e, after)
  | .receipt event, db =>
      match ServerProgram.exec event.program db with
      | (.ok _, after) => (none, after)
      | (.error e, after) => (some e, after)

section Ids

/-- The characters of `randomUUID()`. -/
def uuidChars : List Char := "0123456789abcdef-".toList

def UuidText (id : String) : Prop := id ≠ "" ∧ ∀ c ∈ id.toList, c ∈ uuidChars

instance (id : String) : Decidable (UuidText id) :=
  @instDecidableAnd _ _ inferInstance (List.decidableBAll (fun c => c ∈ uuidChars) id.toList)

theorem uuidChars_solid : ∀ c ∈ uuidChars, EcmaText.isSpace c = false ∧ c ≠ '|' := by
  have solid : uuidChars.all (fun c => !EcmaText.isSpace c && c != '|') = true := by decide
  simpa using solid

theorem UuidText.trimmed {id : String} (uuid : UuidText id) : EcmaText.trim id = id :=
  EcmaText.trimmed_of_plain fun c member => (uuidChars_solid c (uuid.2 c member)).1

theorem UuidText.noBar {id : String} (uuid : UuidText id) : '|' ∉ id.toList :=
  fun member => (uuidChars_solid '|' (uuid.2 '|' member)).2 rfl

end Ids

section Law

/-- A direct thread of two users, which its pair key tells. -/
def DirectThread (c : ConversationDocument) : Prop :=
  ∃ a b, UuidText a ∧ UuidText b ∧ a ≠ b ∧ c.directPairKey = some (directPairKey a b) ∧
    c.participantIds = [(EcmaText.sortPair a b).1, (EcmaText.sortPair a b).2]

/-- What the service and `randomUUID` make sure of before a request is served. -/
structure StoreShape (db : Database) : Prop where
  users : ∀ u ∈ db.users, UuidText u.id
  threadIds : (db.conversations.map ConversationDocument.id).Nodup
  threads : ∀ c ∈ db.conversations, UuidText c.id ∧ (c.isGroup = false → DirectThread c)
  messageIds : (db.messages.map MessageDocument.id).Nodup
  messages : ∀ m ∈ db.messages, UuidText m.id

/-- The user is one of the two participants of the thread. -/
def Participates (db : Database) (userId conversationId : String) : Prop :=
  ∃ conv ∈ db.conversations, conv.id = conversationId ∧ conv.isGroup = false ∧
    conv.participantIds.length = 2 ∧ userId ∈ conv.participantIds

/-- Senders and the users of receipts. -/
structure MessagesAuthorized (db : Database) : Prop where
  senders : ∀ m ∈ db.messages, Participates db m.senderId m.conversationId
  receipts : ∀ m ∈ db.messages, ∀ userId receipts, m.receiptsByUserId.get userId = some receipts →
    Participates db userId m.conversationId ∧ userId ≠ m.senderId

/-- The cursor's user participates in its thread, and the cursor points to a
message of the thread that another user has sent. -/
def ReadsAuthorized (db : Database) : Prop :=
  ∀ row ∈ db.conversationReads, Participates db row.userId row.conversationId ∧
    ∃ m ∈ db.messages, m.id = row.lastReadMessageId ∧ m.conversationId = row.conversationId ∧
      m.senderId ≠ row.userId

structure Authorized (db : Database) : Prop where
  messages : MessagesAuthorized db
  reads : ReadsAuthorized db

abbrev StoreTransition := Transition Database StoreRequest

/-- A request that ends with an error has changed nothing. -/
def RejectedUnchanged (t : StoreTransition) : Prop :=
  ∀ e, (t.label.serve t.source).1 = some e → t.target = t.source

/-- An accepted `conversation:read` names its message by the very id. -/
def namesMessage (t : StoreTransition) : Bool :=
  match t.label with
  | .receipt (.conversationRead r _ _) =>
      (acceptedThread r t.source).isNone || decide (EcmaText.trim r.messageId = r.messageId)
  | _ => true

/-- The ids a send draws, the message's not drawn before. -/
def FreshStamp (db : Database) : StoreRequest → Prop
  | .send _ _ stamp _ => UuidText stamp.messageUuid ∧ UuidText stamp.conversationUuid ∧
      stamp.messageUuid ∉ db.messages.map MessageDocument.id
  | .receipt _ => True

/-- A store without messages and cursors. -/
structure EmptyStore (db : Database) : Prop where
  shape : StoreShape db
  messages : db.messages = []
  reads : db.conversationReads = []

def storeMachine : Machine Database StoreRequest where
  init := EmptyStore
  step db request db' := FreshStamp db request ∧ db' = (request.serve db).2

end Law

section Threads

variable {db db' : Database}

/-- The threads of `db` are still there. -/
def KeepsThreads (db db' : Database) : Prop :=
  ∀ c ∈ db.conversations, ∃ c' ∈ db'.conversations, c'.id = c.id ∧ c'.isGroup = c.isGroup ∧
    c'.participantIds = c.participantIds

theorem Participates.mono (keeps : KeepsThreads db db') {userId conversationId : String}
    (member : Participates db userId conversationId) : Participates db' userId conversationId := by
  obtain ⟨conv, stored, rfl, direct, two, listed⟩ := member
  obtain ⟨conv', stored', sameId, sameKind, sameUsers⟩ := keeps conv stored
  exact ⟨conv', stored', sameId, sameKind.trans direct, sameUsers ▸ two, sameUsers ▸ listed⟩

theorem DirectThread.two {c : ConversationDocument} (thread : DirectThread c) :
    c.participantIds.length = 2 := by
  obtain ⟨a, b, -, -, -, -, users⟩ := thread
  rw [users]
  rfl

theorem mem_pair_sorted (a b : String) :
    a ∈ [(EcmaText.sortPair a b).1, (EcmaText.sortPair a b).2] := by
  rcases EcmaText.sortPair_cases a b with sorted | sorted <;> simp [sorted]

/-- The thread a send resolves is stored in the end, with the sender in it. -/
theorem resolved_thread (shape : StoreShape db) {sender : UserId} {payload : SendMessageRequest}
    {stamp : SendStamp} {guestExp : Option Nat} {conv : ConversationDocument} (uuid : UuidText stamp.conversationUuid)
    (known : ∃ u ∈ db.users, u.id = sender.val)
    (thread : ThreadResolved db sender.val payload stamp guestExp conv db') :
    StoreShape db' ∧ KeepsThreads db db' ∧ db'.conversationReads = db.conversationReads ∧
      conv ∈ db'.conversations ∧ conv.isGroup = false ∧ DirectThread conv ∧
      sender.val ∈ conv.participantIds := by
  have senderUuid : UuidText sender.val := by
    obtain ⟨u, held, same⟩ := known
    exact same ▸ shape.users u held
  have kept : KeepsThreads db db := fun c stored => ⟨c, stored, rfl, rfl, rfl⟩
  have resolved := thread
  cases thread with
  | named _ _ stored direct member =>
    exact ⟨shape, kept, rfl, stored, direct, (shape.threads conv stored).2 direct, member⟩
  | held _ recipient _ known stored direct pair =>
    have whole := (shape.threads conv stored).2 direct
    obtain ⟨a, b, uuidA, uuidB, -, key, users⟩ := whole
    obtain ⟨u, listed, rfl⟩ := known
    have same := directPairKey_inj uuidA.noBar uuidB.noBar senderUuid.noBar (shape.users u listed).noBar
      (Option.some.inj (key.symm.trans pair))
    refine ⟨shape, kept, rfl, stored, direct, (shape.threads conv stored).2 direct, ?_⟩
    rw [users, same]
    exact mem_pair_sorted _ _
  | created recipient known different _ free =>
    obtain ⟨u, listed, rfl⟩ := known
    have thread : DirectThread
        (newDirectThread sender.val u.id stamp.conversationUuid stamp.now guestExp) :=
      ⟨sender.val, u.id, senderUuid, shape.users u listed, different.symm, rfl, rfl⟩
    refine ⟨?_, ?_, rfl, List.mem_append_right _ (List.mem_singleton_self _), rfl, thread,
      mem_pair_sorted _ _⟩
    · refine ⟨shape.users, ?_, ?_, shape.messageIds, shape.messages⟩
      · exact resolved.threadIds shape.threadIds
      · intro c member
        rcases List.mem_append.mp member with old | new
        · exact shape.threads c old
        · obtain rfl := List.mem_singleton.mp new
          exact ⟨uuid, fun _ => thread⟩
    · exact fun c stored => ⟨c, List.mem_append_left _ stored, rfl, rfl, rfl⟩

end Threads

section Messages

variable {db : Database}

/-- A message that is sent joins a thread of its sender. -/
theorem messageSent_preserves {sender : UserId} {payload : SendMessageRequest} {stamp : SendStamp}
    {guestExp : Option Nat} {conv : ConversationDocument} {recipientUserId : String}
    {originSocketId : Option String} (shape : StoreShape db) (authorized : MessagesAuthorized db) (stored : conv ∈ db.conversations)
    (direct : conv.isGroup = false) (thread : DirectThread conv)
    (member : sender.val ∈ conv.participantIds) (uuid : UuidText stamp.messageUuid)
    (fresh : stamp.messageUuid ∉ db.messages.map MessageDocument.id) {db' : Database}
    (sent : db' = db.messageSent recipientUserId (newMessage conv.id sender.val payload stamp guestExp)
      originSocketId) :
    StoreShape db' ∧ MessagesAuthorized db' ∧ (ReadsAuthorized db → ReadsAuthorized db') := by
  subst sent
  have kept : KeepsThreads db
      (db.messageSent recipientUserId (newMessage conv.id sender.val payload stamp guestExp) originSocketId) := by
    intro c held
    have sameId : ∀ x : ConversationDocument, (x.touched stamp.now).id = x.id := fun _ => rfl
    have touched : ∃ c', (Collection.updateFirst (fun x : ConversationDocument => x.id = conv.id)
        (ConversationDocument.touched stamp.now) db.conversations).find? (fun x => x.id = c.id) = some c' ∧
        (c' = c ∨ c' = c.touched stamp.now) :=
      Collection.find_updateFirst sameId ((Collection.find_key shape.threadIds).mpr ⟨held, rfl⟩)
    obtain ⟨c', found, same⟩ := touched
    refine ⟨c', List.mem_of_find?_eq_some found, ?_⟩
    rcases same with rfl | rfl <;> exact ⟨rfl, rfl, rfl⟩
  refine ⟨?_, ?_, ?_⟩
  · refine ⟨shape.users, ?_, ?_, ?_, ?_⟩
    · simp only [Database.messageSent]
      rw [Collection.map_key_updateFirst ConversationDocument.id _ (ConversationDocument.touched _)
        fun _ => rfl]
      exact shape.threadIds
    · intro c held
      rcases Collection.mem_updateFirst held with old | ⟨origin, old, rfl⟩
      · exact shape.threads c old
      · exact shape.threads origin old
    · simp only [Database.messageSent, List.map_append, List.map_cons, List.map_nil]
      refine List.nodup_append.mpr ⟨shape.messageIds, List.nodup_singleton _, ?_⟩
      intro x old y new
      obtain rfl := List.mem_singleton.mp new
      rintro rfl
      exact fresh old
    · intro m held
      rcases List.mem_append.mp held with old | new
      · exact shape.messages m old
      · obtain rfl := List.mem_singleton.mp new
        exact uuid
  · refine ⟨fun m held => ?_, fun m held userId receipts noted => ?_⟩
    · rcases List.mem_append.mp held with old | new
      · exact (authorized.senders m old).mono kept
      · obtain rfl := List.mem_singleton.mp new
        exact Participates.mono kept ⟨conv, stored, rfl, direct, thread.two, member⟩
    · rcases List.mem_append.mp held with old | new
      · obtain ⟨participates, other⟩ := authorized.receipts m old userId receipts noted
        exact ⟨participates.mono kept, other⟩
      · obtain rfl := List.mem_singleton.mp new
        simp [newMessage] at noted
  · intro reads row held
    obtain ⟨participates, m, listed, named⟩ := reads row held
    exact ⟨participates.mono kept, m, List.mem_append_left _ listed, named⟩

/-- What a stored message is after a receipt time has been set. -/
theorem mem_receiptWritten (shape : StoreShape db) (kind : ReceiptKind) (r : ReceiptRequest) (at' : Nat)
    (m' : MessageDocument) : m' ∈ (db.receiptWritten kind r at').messages ↔
      ∃ m ∈ db.messages, m' = if m.id = r.messageId then m.setReceipt kind r.actorUserId at' else m := by
  have mapped := Collection.updateFirst_eq_map shape.messageIds r.messageId
    (fun m _ (matched : decide (m.id = r.messageId) = true) => of_decide_eq_true matched)
    (MessageDocument.setReceipt kind r.actorUserId at')
  simp only [Database.receiptWritten, ServerCommand.exec, Database.setMessages, mapped, List.mem_map,
    decide_eq_true_eq]
  constructor
  · rintro ⟨m, held, rfl⟩
    exact ⟨m, held, rfl⟩
  · rintro ⟨m, held, rfl⟩
    exact ⟨m, held, rfl⟩

/-- A receipt keeps what a message is. -/
theorem setReceipt_frame (m : MessageDocument) (condition : Prop) [Decidable condition]
    (kind : ReceiptKind) (userId : String) (at' : Nat) :
    (if condition then m.setReceipt kind userId at' else m).id = m.id ∧
      (if condition then m.setReceipt kind userId at' else m).conversationId = m.conversationId ∧
      (if condition then m.setReceipt kind userId at' else m).senderId = m.senderId := by
  split <;> exact ⟨rfl, rfl, rfl⟩

/-- A receipt of an accepted event belongs to the participant who has not sent the message. -/
theorem receiptWritten_preserves (shape : StoreShape db) (authorized : MessagesAuthorized db)
    {r : ReceiptRequest} (kind : ReceiptKind) (at' : Nat) {m : MessageDocument} (held : m ∈ db.messages)
    (named : m.id = r.messageId) (participates : Participates db r.actorUserId m.conversationId)
    (other : r.actorUserId ≠ m.senderId) {db' : Database} (written : db' = db.receiptWritten kind r at') :
    StoreShape db' ∧ MessagesAuthorized db' ∧ (ReadsAuthorized db → ReadsAuthorized db') := by
  subst written
  have members := mem_receiptWritten shape kind r at'
  refine ⟨?_, ?_, ?_⟩
  · refine ⟨shape.users, shape.threadIds, shape.threads, ?_, ?_⟩
    · simp only [Database.receiptWritten, ServerCommand.exec, Database.setMessages]
      rw [Collection.map_key_updateFirst _ _ (MessageDocument.setReceipt kind r.actorUserId at')
        fun _ => rfl]
      exact shape.messageIds
    · intro m' listed
      obtain ⟨e, old, rfl⟩ := (members m').mp listed
      rw [(setReceipt_frame e _ kind r.actorUserId at').1]
      exact shape.messages e old
  · refine ⟨fun m' listed => ?_, fun m' listed userId receipts noted => ?_⟩
    · obtain ⟨e, old, rfl⟩ := (members m').mp listed
      obtain ⟨-, thread, sender⟩ := setReceipt_frame e (e.id = r.messageId) kind r.actorUserId at'
      rw [thread, sender]
      exact authorized.senders e old
    · obtain ⟨e, old, rfl⟩ := (members m').mp listed
      obtain ⟨-, thread, sender⟩ := setReceipt_frame e (e.id = r.messageId) kind r.actorUserId at'
      rw [thread, sender]
      split at noted
      · rename_i same
        obtain rfl : e = m := Collection.eq_of_key shape.messageIds old held (same.trans named.symm)
        by_cases actor : userId = r.actorUserId
        · subst actor
          exact ⟨participates, other⟩
        · refine authorized.receipts e old userId receipts ?_
          simpa [MessageDocument.setReceipt, Record.get_set_of_ne _ _ actor] using noted
      · exact authorized.receipts e old userId receipts noted
  · intro reads row listed
    obtain ⟨member, e, old, names, thread, sender⟩ := reads row listed
    obtain ⟨sameId, sameThread, sameSender⟩ :=
      setReceipt_frame e (e.id = r.messageId) kind r.actorUserId at'
    exact ⟨member, _, (members _).mpr ⟨e, old, rfl⟩, sameId.trans names, sameThread.trans thread,
      sameSender ▸ sender⟩

theorem mem_upsertRead {reads : List ConversationReadDocument} {userId conversationId messageId : String}
    {at' now : Nat} {row : ConversationReadDocument}
    (member : row ∈ Database.upsertRead reads userId conversationId messageId at' now) :
    row ∈ reads ∨ row.userId = userId ∧ row.conversationId = conversationId ∧
      row.lastReadMessageId = messageId := by
  unfold Database.upsertRead at member
  split at member
  · rcases Collection.mem_updateFirst_matched member with old | ⟨e, held, matched, rfl⟩
    · exact .inl old
    · obtain ⟨user, thread⟩ := Database.isReadOf_iff.mp matched
      exact .inr ⟨user, thread, rfl⟩
  · rcases List.mem_append.mp member with old | new
    · exact .inl old
    · obtain rfl := List.mem_singleton.mp new
      exact .inr ⟨rfl, rfl, rfl⟩

end Messages

section Requests

variable {db : Database}

/-- What the checks of a receipt event establish about its exact message. -/
theorem acceptedThread_establishes (shape : StoreShape db) {r : ReceiptRequest}
    {conv : ConversationDocument} (accepted : acceptedThread r db = some conv) :
    ∃ m ∈ db.messages, m.id = EcmaText.trim r.messageId ∧ m.conversationId = r.conversationId ∧
      (MessagesAuthorized db → Participates db r.actorUserId m.conversationId) ∧
        r.actorUserId ≠ m.senderId := by
  obtain ⟨thread, member, m, found, same, other⟩ := acceptedThread_eq_some.mp accepted
  obtain ⟨-, named, direct⟩ := directThread_eq_some.mp thread
  have held := List.mem_of_find?_eq_some found
  refine ⟨m, held, by simpa using List.find?_some found, same, fun authorized => ?_, other⟩
  have stored := List.mem_of_find?_eq_some named
  have convId : conv.id = EcmaText.trim r.conversationId := by simpa using List.find?_some named
  obtain ⟨home, homeStored, homeId, -⟩ := authorized.senders m held
  have plain : EcmaText.trim r.conversationId = r.conversationId := by
    have uuid := (shape.threads home homeStored).1
    rw [homeId, same] at uuid
    exact uuid.trimmed
  exact ⟨conv, stored, (convId.trans plain).trans same.symm, direct,
    ((shape.threads conv stored).2 direct).two, member⟩

/-- The part of the law that holds in every run. -/
structure ServedStore (db : Database) : Prop where
  shape : StoreShape db
  messages : MessagesAuthorized db

theorem receiptWritten_accepted (served : ServedStore db) {r : ReceiptRequest} (kind : ReceiptKind)
    (at' : Nat) {conv : ConversationDocument} {m : MessageDocument}
    (accepted : acceptedThread r db = some conv) (found : db.findMessageRow r.messageId = some m) :
    ServedStore (db.receiptWritten kind r at') ∧
      (ReadsAuthorized db → ReadsAuthorized (db.receiptWritten kind r at')) := by
  have held := List.mem_of_find?_eq_some found
  have named : m.id = r.messageId := by simpa using List.find?_some found
  obtain ⟨m', held', names, -, participates, other⟩ := acceptedThread_establishes served.shape accepted
  have exact : EcmaText.trim r.messageId = r.messageId := named ▸ (served.shape.messages m held).trimmed
  obtain rfl : m' = m :=
    Collection.eq_of_key served.shape.messageIds held' held (names.trans (exact.trans named.symm))
  obtain ⟨shape, messages, reads⟩ := receiptWritten_preserves served.shape served.messages kind at' held
    named (participates served.messages) other rfl
  exact ⟨⟨shape, messages⟩, reads⟩

/-- The cursor that an accepted event moves points to its message when the id is exact. -/
theorem cursorMoved_reads {r : ReceiptRequest} {at' now : Nat} {m : MessageDocument}
    (held : m ∈ db.messages) (named : m.id = r.messageId) (same : m.conversationId = r.conversationId)
    (participates : Participates db r.actorUserId m.conversationId) (other : r.actorUserId ≠ m.senderId)
    (reads : ReadsAuthorized db) : ReadsAuthorized (db.cursorMoved r at' now) := by
  intro row listed
  rcases mem_upsertRead listed with old | ⟨user, thread, message⟩
  · exact reads row old
  · rw [user, thread, message, ← same]
    exact ⟨participates, m, held, named, rfl, other.symm⟩

/-- A padded id leaves a cursor that points to nothing. -/
theorem cursorMoved_exact (served : ServedStore db) {r : ReceiptRequest} {at' now : Nat}
    (reads : ReadsAuthorized (db.cursorMoved r at' now)) :
    EcmaText.trim r.messageId = r.messageId := by
  obtain ⟨row, found, named⟩ :=
    db.findReadRow_upsert r.actorUserId r.conversationId r.messageId at' now
  obtain ⟨-, m, held, same, -⟩ := reads row (List.mem_of_find?_eq_some found)
  rw [named] at same
  exact same ▸ (served.shape.messages m held).trimmed

variable {request : StoreRequest}

/-- What serving a request does to the law. -/
structure ServedBy (request : StoreRequest) (db : Database) : Prop where
  rejected : ∀ e, (request.serve db).1 = some e → (request.serve db).2 = db
  served : ServedStore (request.serve db).2
  reads : ReadsAuthorized db →
    (namesMessage ⟨db, request, (request.serve db).2⟩ = true ↔ ReadsAuthorized (request.serve db).2)

theorem ServedBy.of_rejected (served : ServedStore db) {e : AppError}
    (outcome : request.serve db = (some e, db))
    (named : namesMessage ⟨db, request, db⟩ = true) : ServedBy request db := by
  rw [show db = (request.serve db).2 from (congrArg Prod.snd outcome).symm] at named
  refine ⟨fun _ _ => congrArg Prod.snd outcome, ?_, fun reads => iff_of_true ?_ ?_⟩
  · rw [outcome]
    exact served
  · rw [outcome] at named ⊢
    exact named
  · rw [outcome]
    exact reads

theorem ServedBy.of_stored {after : Database} (outcome : request.serve db = (none, after))
    (served : ServedStore after) (reads : ReadsAuthorized db →
      (namesMessage ⟨db, request, after⟩ = true ↔ ReadsAuthorized after)) : ServedBy request db := by
  refine ⟨fun e failed => ?_, ?_, ?_⟩
  · rw [outcome] at failed
    cases failed
  · rw [outcome]
    exact served
  · rw [outcome]
    exact reads

theorem send_served (inv : ServedStore db) (sender : UserId) (payload : SendMessageRequest)
    (stamp : SendStamp) (originSocketId : Option String)
    (fresh : FreshStamp db (.send sender payload stamp originSocketId)) :
    ServedBy (.send sender payload stamp originSocketId) db := by
  obtain ⟨messageUuid, conversationUuid, unused⟩ := fresh
  rcases sendMessageForUser_rejectedOr inv.shape.threadIds sender unused with
    ⟨e, failed⟩ | ⟨doc, after, ran, known, conv, resolved, recipientUserId, -, thread, rfl, stored⟩
  · exact .of_rejected inv (by rw [StoreRequest.serve, failed]) rfl
  · obtain ⟨shape, keeps, reads, listed, direct, whole, member⟩ :=
      resolved_thread inv.shape conversationUuid known thread
    have same := thread.messages
    have messages : MessagesAuthorized resolved := by
      refine ⟨fun m held => ?_, fun m held userId receipts noted => ?_⟩
      · exact (inv.messages.senders m (same ▸ held)).mono keeps
      · obtain ⟨participates, other⟩ := inv.messages.receipts m (same ▸ held) userId receipts noted
        exact ⟨participates.mono keeps, other⟩
    obtain ⟨shape', messages', kept⟩ := messageSent_preserves shape messages listed direct whole member
      messageUuid (same ▸ unused) stored
    refine .of_stored (by rw [StoreRequest.serve, ran]) ⟨shape', messages'⟩ fun authorized =>
      iff_of_true rfl (kept ?_)
    intro row held
    obtain ⟨participates, m, old, names⟩ := authorized row (reads ▸ held)
    exact ⟨participates.mono keeps, m, same ▸ old, names⟩

theorem published_iff {r : ReceiptRequest} {socketEvent : String} {at' : Nat} {pids : List String} :
    (ServedStore (db.receiptPublished r socketEvent at' pids) ↔ ServedStore db) ∧
      (ReadsAuthorized (db.receiptPublished r socketEvent at' pids) ↔ ReadsAuthorized db) := by
  refine ⟨⟨fun s => ⟨⟨s.shape.users, s.shape.threadIds, s.shape.threads, s.shape.messageIds,
    s.shape.messages⟩, ⟨s.messages.senders, s.messages.receipts⟩⟩, fun s => ⟨⟨s.shape.users,
    s.shape.threadIds, s.shape.threads, s.shape.messageIds, s.shape.messages⟩,
    ⟨s.messages.senders, s.messages.receipts⟩⟩⟩, Iff.rfl⟩

theorem cursorMoved_served {r : ReceiptRequest} {at' now : Nat} (inv : ServedStore db) :
    ServedStore (db.cursorMoved r at' now) :=
  ⟨⟨inv.shape.users, inv.shape.threadIds, inv.shape.threads, inv.shape.messageIds, inv.shape.messages⟩,
    ⟨inv.messages.senders, inv.messages.receipts⟩⟩

theorem delivered_served (inv : ServedStore db) (r : ReceiptRequest) (at' : Nat) :
    ServedBy (.receipt (.messageDelivered r at')) db := by
  rcases processMessageDelivered_run r at' db with ⟨e, failed⟩ | ⟨conv, m, accepted, found, ran⟩
  · exact .of_rejected inv (by rw [StoreRequest.serve, ReceiptEvent.program, failed]) rfl
  · refine .of_stored (by rw [StoreRequest.serve, ReceiptEvent.program, ran]) ?_ ?_
    · split
      · exact inv
      · exact published_iff.1.mpr (receiptWritten_accepted inv .delivered at' accepted found).1
    · intro reads
      refine iff_of_true rfl ?_
      split
      · exact reads
      · exact published_iff.2.mpr
          ((receiptWritten_accepted inv .delivered at' accepted found).2 reads)

/-- Where `message:read` moves the cursor, its message stands under the exact id. -/
theorem seen_stands (inv : ServedStore db) {r : ReceiptRequest} {at' : Nat}
    {conv : ConversationDocument} {m : MessageDocument} (accepted : acceptedThread r db = some conv)
    (found : db.findMessageRow r.messageId = some m) {seen : Database}
    (step : seen = db ∨ seen = db.receiptWritten .seen r at') :
    ServedStore seen ∧ (ReadsAuthorized db → ReadsAuthorized seen) ∧ ∃ m' ∈ seen.messages,
      m'.id = r.messageId ∧ m'.conversationId = r.conversationId ∧
        Participates seen r.actorUserId m'.conversationId ∧ r.actorUserId ≠ m'.senderId := by
  have held := List.mem_of_find?_eq_some found
  have named : m.id = r.messageId := by simpa using List.find?_some found
  obtain ⟨m', held', names, thread, participates, other⟩ := acceptedThread_establishes inv.shape accepted
  have exact : EcmaText.trim r.messageId = r.messageId := named ▸ (inv.shape.messages m held).trimmed
  rcases step with rfl | rfl
  · exact ⟨inv, id, m', held', names.trans exact, thread, participates inv.messages, other⟩
  · obtain ⟨served, reads⟩ := receiptWritten_accepted inv .seen at' accepted found
    obtain ⟨sameId, sameThread, sameSender⟩ :=
      setReceipt_frame m' (m'.id = r.messageId) .seen r.actorUserId at'
    refine ⟨served, reads, _, (mem_receiptWritten inv.shape .seen r at' _).mpr ⟨m', held', rfl⟩,
      sameId.trans (names.trans exact), sameThread.trans thread, ?_, sameSender ▸ other⟩
    rw [sameThread]
    exact participates inv.messages

theorem read_served (inv : ServedStore db) (r : ReceiptRequest) (at' now : Nat) :
    ServedBy (.receipt (.messageRead r at' now)) db := by
  rcases processMessageRead_run r at' now db with ⟨e, failed⟩ | ⟨conv, m, accepted, found, ran⟩
  · exact .of_rejected inv (by rw [StoreRequest.serve, ReceiptEvent.program, failed]) rfl
  · have step : ∀ since : Bool, (if since then db else db.receiptWritten .seen r at') = db ∨
        (if since then db else db.receiptWritten .seen r at') = db.receiptWritten .seen r at' := by
      intro since
      cases since
      · exact .inr rfl
      · exact .inl rfl
    obtain ⟨seen, changed, kept, ran⟩ : ∃ (seen : Database) (changed : Bool),
        (seen = db ∨ seen = db.receiptWritten .seen r at') ∧
          ServerProgram.exec (processMessageRead r at' now) db = (.ok (),
            if changed then (seen.cursorMoved r at' now).receiptPublished r "message:read" at'
              conv.participantIds
            else seen.cursorMoved r at' now) :=
      ⟨_, _, step (hasReceiptSince .seen r.actorUserId at' m), ran⟩
    obtain ⟨served, reads, m', held, named, same, participates, other⟩ :=
      seen_stands inv accepted found kept
    refine .of_stored (by rw [StoreRequest.serve, ReceiptEvent.program, ran]) ?_ ?_
    · split
      · exact published_iff.1.mpr (cursorMoved_served served)
      · exact cursorMoved_served served
    · intro authorized
      have moved : ReadsAuthorized (seen.cursorMoved r at' now) :=
        cursorMoved_reads held named same participates other (reads authorized)
      refine iff_of_true rfl ?_
      split
      · exact published_iff.2.mpr moved
      · exact moved

theorem conversationRead_served (inv : ServedStore db) (r : ReceiptRequest) (at' now : Nat) :
    ServedBy (.receipt (.conversationRead r at' now)) db := by
  have run := processConversationRead_run r at' now db
  cases accepted : acceptedThread r db with
  | none =>
    rw [accepted] at run
    obtain ⟨e, failed⟩ := run
    exact .of_rejected inv (by rw [StoreRequest.serve, ReceiptEvent.program, failed])
      (by simp [namesMessage, accepted])
  | some conv =>
    rw [accepted] at run
    dsimp only at run
    obtain ⟨m, held, names, same, participates, other⟩ := acceptedThread_establishes inv.shape accepted
    refine .of_stored (by rw [StoreRequest.serve, ReceiptEvent.program, run]) ?_ ?_
    · split
      · exact published_iff.1.mpr (cursorMoved_served inv)
      · exact cursorMoved_served inv
    · intro reads
      have exact_iff : namesMessage ⟨db, .receipt (.conversationRead r at' now),
          if db.cursorChanges r at' now then (db.cursorMoved r at' now).receiptPublished r
            "conversation:read" at' conv.participantIds else db.cursorMoved r at' now⟩ = true ↔
          ReadsAuthorized (db.cursorMoved r at' now) := by
        simp only [namesMessage, accepted, Option.isNone_some, Bool.false_or, decide_eq_true_eq]
        exact ⟨fun exact => cursorMoved_reads held (names.trans exact) same
          (participates inv.messages) other reads, cursorMoved_exact inv⟩
      refine exact_iff.trans ?_
      split
      · exact published_iff.2.symm
      · exact Iff.rfl

theorem request_served (inv : ServedStore db) (fresh : FreshStamp db request) : ServedBy request db := by
  cases request with
  | send sender payload stamp originSocketId =>
    exact send_served inv sender payload stamp originSocketId fresh
  | receipt event =>
    cases event with
    | messageDelivered r at' => exact delivered_served inv r at'
    | messageRead r at' now => exact read_served inv r at' now
    | conversationRead r at' now => exact conversationRead_served inv r at' now

end Requests

/-- Every state reached obeys the law, and rejected requests change nothing,
exactly when each accepted `conversation:read` names its message by the very id. -/
theorem stores_authorized_iff {start final : Database} {history : List StoreTransition}
    (init : storeMachine.init start) (run : storeMachine.Run start history final) :
    (∀ t ∈ history, namesMessage t = true) ↔
      (∀ t ∈ history, Authorized t.target ∧ RejectedUnchanged t) := by
  have initial : ServedStore start :=
    ⟨init.shape, ⟨fun m held => by simp [init.messages] at held, fun m held => by
      simp [init.messages] at held⟩⟩
  have preserved : ∀ s request t, ServedStore s → storeMachine.step s request t → ServedStore t := by
    rintro s request t inv ⟨fresh, rfl⟩
    exact (request_served inv fresh).served
  have decided : (∀ t ∈ history, namesMessage t = true) ↔ ∀ t ∈ history, ReadsAuthorized t.target := by
    refine run.forall_target_iff (C := fun t => namesMessage t = true) preserved ?_ initial
      (fun row held => by simp [init.reads] at held)
    rintro s request t inv reads ⟨fresh, rfl⟩
    exact (request_served inv fresh).reads reads
  rw [decided]
  have recorded := run.recorded preserved initial
  constructor
  · intro reads t member
    obtain ⟨taken, inv⟩ := recorded t member
    refine ⟨⟨(preserved _ _ _ inv taken).messages, reads t member⟩, fun e failed => ?_⟩
    obtain ⟨fresh, same⟩ := taken
    rw [same]
    exact (request_served inv fresh).rejected e failed
  · intro lawful t member
    exact (lawful t member).1.reads

section Runs

def sender : UserId := ⟨"a1", by decide, by decide⟩

def users : Database := { users := [⟨"a1", false, none⟩, ⟨"b2", false, none⟩] }

theorem users_init : storeMachine.init users := by
  refine ⟨⟨?_, List.nodup_nil, ?_, List.nodup_nil, ?_⟩, rfl, rfl⟩
  · decide
  · intro c member
    cases member
  · intro m member
    cases member

/-- A first message from `a1` to `b2`. -/
def hello : StoreRequest :=
  .send sender { recipientUserId := .value "b2", body := .value "hi" } ⟨"c0", "e5", 1, 86400⟩ none

/-- `b2` marks the conversation as read up to the message. -/
def read (messageId : String) : StoreRequest :=
  .receipt (.conversationRead ⟨"b2", messageId, "c0", none⟩ 2 2)

def served (db : Database) (request : StoreRequest) : Option Database :=
  match request with
  | .send _ _ stamp _ =>
      if UuidText stamp.messageUuid ∧ UuidText stamp.conversationUuid ∧
          stamp.messageUuid ∉ db.messages.map MessageDocument.id then
        some (request.serve db).2
      else none
  | .receipt _ => some (request.serve db).2

theorem served_step (db : Database) (request : StoreRequest) (db' : Database)
    (taken : served db request = some db') : storeMachine.step db request db' := by
  cases request with
  | send sender payload stamp originSocketId =>
    simp only [served] at taken
    split at taken
    · rename_i fresh
      exact ⟨fresh, (Option.some.inj taken).symm⟩
    · cases taken
  | receipt event => exact ⟨trivial, (Option.some.inj taken).symm⟩

/-- A message that is sent, delivered and marked as read; a blank id is then rejected. -/
theorem stores_authorized_first_message :
    ∃ history final, storeMachine.Run users history final ∧ history.length = 4 ∧
      final.messages.map MessageDocument.id = ["e5"] ∧
      final.conversationReads.map ConversationReadDocument.lastReadMessageId = ["e5"] ∧
      ∀ t ∈ history, Authorized t.target ∧ RejectedUnchanged t := by
  let requests : List StoreRequest :=
    [hello, .receipt (.messageDelivered ⟨"b2", "e5", "c0", none⟩ 2), read "e5", read " "]
  have checked : (Machine.trace served users requests).any (fun executed =>
      decide (executed.1.length = 4 ∧ executed.2.messages.map MessageDocument.id = ["e5"] ∧
        executed.2.conversationReads.map ConversationReadDocument.lastReadMessageId = ["e5"]) &&
      executed.1.all namesMessage) = true := by decide
  obtain ⟨⟨history, final⟩, executed, holds⟩ := (Option.any_eq_true _ _).mp checked
  obtain ⟨stored, named⟩ := (Bool.and_eq_true _ _).mp holds
  obtain ⟨four, message, cursor⟩ := of_decide_eq_true stored
  have run : storeMachine.Run users history final := Machine.trace_run _ served_step executed
  exact ⟨history, final, run, four, message, cursor,
    (stores_authorized_iff users_init run).mp (List.all_eq_true.mp named)⟩

/-- A padded message id passes the checks and is stored as it came. -/
theorem cursor_names_no_message :
    ¬ ∀ (start final : Database) (history : List StoreTransition),
      storeMachine.init start → storeMachine.Run start history final →
      ∀ t ∈ history, Authorized t.target ∧ RejectedUnchanged t := by
  intro claim
  have checked : (Machine.trace served users [hello, read " e5"]).bind (fun executed =>
      executed.1.getLast?.map fun t => t.target.conversationReads.all fun row =>
        t.target.messages.any fun m => m.id = row.lastReadMessageId) = some false := by decide
  obtain ⟨⟨history, final⟩, executed, last⟩ := Option.bind_eq_some_iff.mp checked
  obtain ⟨t, found, dangling⟩ := Option.map_eq_some_iff.mp last
  have run : storeMachine.Run users history final := Machine.trace_run _ served_step executed
  have lawful := (claim users final history users_init run t (List.mem_of_getLast? found)).1
  have named : (t.target.conversationReads.all fun row =>
      t.target.messages.any fun m => m.id = row.lastReadMessageId) = true := by
    refine List.all_eq_true.mpr fun row held => ?_
    obtain ⟨-, m, stored, same, -⟩ := lawful.reads row held
    exact List.any_eq_true.mpr ⟨m, stored, decide_eq_true same⟩
  rw [dangling] at named
  cases named

end Runs

end MessagingSystem.Guarantees.StoreAuthorization

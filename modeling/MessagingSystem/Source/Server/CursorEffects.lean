import MessagingSystem.Foundation.Interference
import MessagingSystem.Source.Server.ProgramEffects
import MessagingSystem.Source.Server.Receipts

/-!
# The read cursor in the store

No command loses a message or moves it in its thread, and only the cursor
upsert touches a cursor. A read event writes a cursor only after its checks,
for a message that is stored; `Extends` is the interference it can count on.
-/
namespace MessagingSystem.Source.Server
open Foundation

namespace Database

/-- Every stored message stays, with the same thread and place in it. -/
def Extends (db db' : Database) : Prop :=
  ∀ id m, db.findMessageRow id = some m → ∃ m', db'.findMessageRow id = some m' ∧
    m'.conversationId = m.conversationId ∧ m'.position = m.position

theorem Extends.refl (db : Database) : db.Extends db := fun _ m held => ⟨m, held, rfl, rfl⟩

theorem Extends.trans {a b c : Database} (first : a.Extends b) (second : b.Extends c) :
    a.Extends c := by
  intro id m held
  obtain ⟨m', held', thread, position⟩ := first id m held
  obtain ⟨m'', held'', thread', position'⟩ := second id m' held'
  exact ⟨m'', held'', thread'.trans thread, position'.trans position⟩

theorem extends_of_messages {db db' : Database} (same : db'.messages = db.messages) :
    db.Extends db' := by
  intro id m held
  exact ⟨m, by rwa [findMessageRow, same], rfl, rfl⟩

/-- An update that keeps id, thread and time of every message. -/
theorem extends_updateFirst (db : Database) (filter : MessageDocument → Bool)
    (update : MessageDocument → MessageDocument) (sameId : ∀ m, (update m).id = m.id)
    (sameThread : ∀ m, (update m).conversationId = m.conversationId)
    (sameTime : ∀ m, (update m).createdAt = m.createdAt) :
    db.Extends (db.setMessages (Collection.updateFirst filter update db.messages)) := by
  intro id m held
  obtain ⟨m', found, same⟩ : ∃ m',
      (Collection.updateFirst filter update db.messages).find? (fun x => x.id = id) = some m' ∧
        (m' = m ∨ m' = update m) := Collection.find_updateFirst sameId held
  refine ⟨m', found, ?_⟩
  rcases same with rfl | rfl
  · exact ⟨rfl, rfl⟩
  · exact ⟨sameThread m, by simp [MessageDocument.position, sameId, sameTime]⟩

/-- The place of the message an id names. -/
def positionOf (db : Database) (messageId : String) : Option (Nat ×ₗ String) :=
  (db.findMessageRow (EcmaText.trim messageId)).map MessageDocument.position

/-- The place of the message a user has read up to. -/
def cursorPosition (db : Database) (userId conversationId : String) : Option (Nat ×ₗ String) :=
  (db.findReadRow userId conversationId).bind fun row => db.positionOf row.lastReadMessageId

theorem Extends.positionOf {db db' : Database} (ext : db.Extends db') {messageId : String}
    {place : Nat ×ₗ String} (held : db.positionOf messageId = some place) :
    db'.positionOf messageId = some place := by
  obtain ⟨m, found, rfl⟩ := Option.map_eq_some_iff.mp held
  obtain ⟨m', found', -, same⟩ := ext _ m found
  simp [Database.positionOf, found', same]

theorem Extends.cursorPosition {db db' : Database} (ext : db.Extends db')
    {userId conversationId : String}
    (row : db'.findReadRow userId conversationId = db.findReadRow userId conversationId)
    {place : Nat ×ₗ String} (held : db.cursorPosition userId conversationId = some place) :
    db'.cursorPosition userId conversationId = some place := by
  obtain ⟨read, found, at'⟩ := Option.bind_eq_some_iff.mp held
  simp [Database.cursorPosition, row, found, ext.positionOf at']

theorem isReadOf_iff {userId conversationId : String} {r : ConversationReadDocument} :
    isReadOf userId conversationId r = true ↔ r.userId = userId ∧ r.conversationId = conversationId := by
  simp [isReadOf]

/-- The row of the upserted cursor names the message. -/
theorem findReadRow_upsert (db : Database) (userId conversationId messageId : String)
    (lastReadAt now : Nat) :
    ∃ row, (db.setReads (upsertRead db.conversationReads userId conversationId messageId lastReadAt
      now)).findReadRow userId conversationId = some row ∧ row.lastReadMessageId = messageId := by
  have keeps : ∀ r, isReadOf userId conversationId r = true →
      isReadOf userId conversationId (advanceRead messageId lastReadAt now r) = true :=
    fun _ matched => matched
  simp only [findReadRow, setReads, upsertRead]
  by_cases present : db.conversationReads.any (isReadOf userId conversationId) = true
  · rw [if_pos present, Collection.find_updateFirst_self keeps]
    obtain ⟨row, found⟩ :=
      Option.isSome_iff_exists.mp (List.find?_isSome.mpr (List.any_eq_true.mp present))
    exact ⟨advanceRead messageId lastReadAt now row, by simp [found], rfl⟩
  · rw [if_neg present]
    have none : db.conversationReads.find? (isReadOf userId conversationId) = none := by
      simpa [List.find?_eq_none] using present
    refine ⟨⟨userId, conversationId, messageId, lastReadAt, now⟩, ?_, rfl⟩
    simp [List.find?_append, none, isReadOf]

/-- The rows of the other cursors stay. -/
theorem findReadRow_upsert_other (db : Database) (userId conversationId messageId : String)
    (lastReadAt now : Nat) {u c : String} (other : ¬ (u = userId ∧ c = conversationId)) :
    (db.setReads (upsertRead db.conversationReads userId conversationId messageId lastReadAt
      now)).findReadRow u c = db.findReadRow u c := by
  have disjoint : ∀ r : ConversationReadDocument, isReadOf userId conversationId r = true →
      isReadOf u c r = false ∧ isReadOf u c (advanceRead messageId lastReadAt now r) = false := by
    intro r matched
    suffices unseen : isReadOf u c r = false from ⟨unseen, unseen⟩
    by_contra clash
    have both := isReadOf_iff.mp (Bool.not_eq_false _ ▸ clash)
    have same := isReadOf_iff.mp matched
    exact other ⟨both.1.symm.trans same.1, both.2.symm.trans same.2⟩
  simp only [findReadRow, setReads, upsertRead]
  split
  · exact Collection.find_updateFirst_other disjoint _
  · have miss := (disjoint ⟨userId, conversationId, messageId, lastReadAt, now⟩
      (by simp [isReadOf])).1
    simp [List.find?_append, miss]

end Database

namespace ServerCommand

theorem exec_extends {β : Type} (c : ServerCommand β) (db : Database) :
    db.Extends (c.exec db).2 := by
  cases c with
  | insertConversation doc =>
    simp only [exec]
    split <;> exact Database.extends_of_messages rfl
  | insertMessage doc =>
    simp only [exec]
    split
    · rename_i messages inserted
      unfold Collection.insertUnique at inserted
      split at inserted
      · cases inserted
      · cases inserted
        intro id m held
        exact ⟨m, by simp [Database.findMessageRow, List.find?_append, Database.setMessages,
          show db.messages.find? (fun m => m.id = id) = some m from held], rfl, rfl⟩
    · exact Database.Extends.refl db
  | setMessageKey messageId conversationIds source target key =>
    exact Database.extends_updateFirst db _ _ (fun _ => rfl) (fun _ => rfl) fun _ => rfl
  | setReceipt kind messageId userId at' =>
    exact Database.extends_updateFirst db _ _ (fun _ => rfl) (fun _ => rfl) fun _ => rfl
  | insertDevice doc =>
    simp only [exec]
    split <;> exact Database.extends_of_messages rfl
  | _ => exact Database.extends_of_messages rfl

/-- The cursor a command writes: user, conversation and message id. -/
def cursorWrite {β : Type} : ServerCommand β → Option (String × String × String)
  | .upsertConversationRead userId conversationId messageId _ _ =>
      some (userId, conversationId, messageId)
  | _ => none

theorem exec_findReadRow {β : Type} (c : ServerCommand β) (db : Database)
    (other : c.cursorWrite = none) (userId conversationId : String) :
    (c.exec db).2.findReadRow userId conversationId = db.findReadRow userId conversationId := by
  cases c with
  | upsertConversationRead => cases other
  | insertConversation doc =>
    simp only [exec]
    split <;> rfl
  | insertMessage doc =>
    simp only [exec]
    split <;> rfl
  | insertDevice doc =>
    simp only [exec]
    split <;> rfl
  | _ => rfl

/-- A cursor write moves its cursor to the message it names, and no other. -/
theorem exec_cursorWrite {β : Type} {c : ServerCommand β} {db : Database}
    {userId conversationId messageId : String} {place : Nat ×ₗ String}
    (written : c.cursorWrite = some (userId, conversationId, messageId))
    (held : db.positionOf messageId = some place) :
    (c.exec db).2.cursorPosition userId conversationId = some place ∧
      ∀ other, other ≠ (userId, conversationId) →
        (c.exec db).2.findReadRow other.1 other.2 = db.findReadRow other.1 other.2 := by
  cases c with
  | upsertConversationRead u v m lastReadAt now =>
    cases written
    constructor
    · obtain ⟨row, found, named⟩ :=
        Database.findReadRow_upsert db userId conversationId messageId lastReadAt now
      refine Option.bind_eq_some_iff.mpr ⟨row, found, ?_⟩
      rw [named]
      exact held
    · intro other different
      exact Database.findReadRow_upsert_other db userId conversationId messageId lastReadAt now
        fun same => different (Prod.ext same.1 same.2)
  | _ => cases written

theorem AddsOnly.no_cursorWrite {β : Type} {c : ServerCommand β} (adds : c.AddsOnly) :
    c.cursorWrite = none := by
  cases c with
  | upsertConversationRead => cases adds
  | _ => rfl

/-- A cursor write of the command is the expected one, of a stored message. -/
def WritesCursor (expected : Option (String × String × String)) {β : Type} (c : ServerCommand β)
    (db : Database) : Prop :=
  ∀ write, c.cursorWrite = some write →
    expected = some write ∧ ∃ place, db.positionOf write.2.2 = some place

end ServerCommand

section Contracts

open Program

/-- The contract of a function that writes at most the expected cursor. -/
def CursorContract {α : Type} (expected : Option (String × String × String)) (p : ServerProgram α)
    (post : α → Database → Prop) (db : Database) : Prop :=
  Ensures ServerCommand.exec Database.Extends (ServerCommand.WritesCursor expected) p post db

/-- Commands that write no cursor. -/
def ServerCommand.CursorFree {β : Type} (c : ServerCommand β) : Prop := c.cursorWrite = none

variable {α : Type} {expected : Option (String × String × String)} {db : Database}

theorem writesCursor_of_free {β : Type} {c : ServerCommand β} (free : c.CursorFree) :
    ServerCommand.WritesCursor expected c db := by
  intro write written
  rw [free] at written
  cases written

theorem addsOnly_cursorFree {p : ServerProgram α} (adds : Forall ServerCommand.AddsOnly p) :
    Forall ServerCommand.CursorFree p :=
  adds.mono fun _ adds => adds.no_cursorWrite

/-- A contract without postcondition survives the commands of other calls. -/
theorem CursorContract.stable {p : ServerProgram α} {db' : Database} (ext : db.Extends db')
    (contract : CursorContract expected p (fun _ _ => True) db) :
    CursorContract expected p (fun _ _ => True) db' := by
  unfold CursorContract at contract ⊢
  refine Ensures.stable ?_ (fun _ _ _ _ h => h) ext contract
  exact fun _ _ _ first second => first.trans second

/-- The contract of the next command and of the rest. -/
theorem CursorContract.command {β : Type} {c : ServerCommand β} {next : β → ServerProgram α}
    (contract : CursorContract expected (.command c next) (fun _ _ => True) db) :
    ServerCommand.WritesCursor expected c db ∧
      CursorContract expected (next (c.exec db).1) (fun _ _ => True) (c.exec db).2 :=
  ensures_command.mp contract db (Database.Extends.refl db)

theorem CursorContract.of_free {p : ServerProgram α} (free : Forall ServerCommand.CursorFree p) :
    CursorContract expected p (fun _ _ => True) db :=
  Ensures.of_invariant free (fun _ _ _ _ => True.intro)
    (fun _ _ free _ => ⟨writesCursor_of_free free, True.intro⟩) True.intro

/-- A function that writes no cursor keeps the place of a message. -/
theorem CursorContract.keeps_place {p : ServerProgram α}
    (free : Forall ServerCommand.CursorFree p) {messageId : String} {place : Nat ×ₗ String}
    (held : db.positionOf messageId = some place) :
    CursorContract expected p (fun _ db' => db'.positionOf messageId = some place) db :=
  Ensures.of_invariant free (fun _ _ ext held => ext.positionOf held)
    (fun c db free held => ⟨writesCursor_of_free free, (c.exec_extends db).positionOf held⟩) held

/-- The checks of a receipt event find the message. -/
theorem receiptConversation_contract (r : ReceiptRequest) :
    CursorContract expected (receiptConversation r)
      (fun _ db' => ∃ place, db'.positionOf r.messageId = some place) db := by
  unfold receiptConversation
  refine Ensures.bind (CursorContract.of_free
    (addsOnly_cursorFree
    (lookup_addsOnly (requireDirectThread_lookup r.conversationId)))) fun conv _ _ => ?_
  refine Ensures.bind (CursorContract.of_free (forall_require _ _)) fun _ _ _ => ?_
  refine Ensures.bind (Q := fun found db' => found = db'.findMessageRow (EcmaText.trim r.messageId))
    (Ensures.perform fun db' _ => ⟨writesCursor_of_free rfl, rfl⟩) fun found db' lookup => ?_
  refine Ensures.bind (Q := fun msg db'' => db'' = db' ∧ found = some msg)
    (Ensures.orFail fun msg present => ⟨rfl, present⟩) fun msg db'' same => ?_
  obtain ⟨rfl, rfl⟩ := same
  have placed : db''.positionOf r.messageId = some msg.position := by
    simp [Database.positionOf, ← lookup]
  refine Ensures.bind (Q := fun _ s => s = db'') (Ensures.require fun _ => rfl) fun _ s same => ?_
  obtain rfl := same
  refine Ensures.bind (Q := fun _ t => t = s) (Ensures.require fun _ => rfl) fun _ t same => ?_
  obtain rfl := same
  exact Ensures.pure ⟨_, placed⟩

theorem upsertConversationRead_contract (userId conversationId messageId : String)
    (lastReadAt now : Nat) {place : Nat ×ₗ String} (held : db.positionOf messageId = some place) :
    CursorContract (some (userId, conversationId, messageId))
      (upsertConversationRead userId conversationId messageId lastReadAt now)
      (fun _ _ => True) db := by
  unfold upsertConversationRead
  refine Ensures.bind (Q := fun _ _ => True) (Ensures.perform fun db' ext => ?_) fun _ _ _ => ?_
  · refine ⟨?_, True.intro⟩
    rintro write ⟨⟩
    exact ⟨rfl, place, ext.positionOf held⟩
  · exact CursorContract.of_free (.bind (forall_perform.mpr rfl) fun _ =>
      .bind (forall_require _ _) fun _ => forall_pure _)

theorem setReceiptTime_free (kind : ReceiptKind) (r : ReceiptRequest) (at' : Nat) :
    Forall ServerCommand.CursorFree (setReceiptTime kind r at') := by
  unfold setReceiptTime
  refine .bind (forall_perform.mpr rfl) fun found => .bind (forall_orFail _ _) fun msg =>
    .bind (forall_require _ _) fun _ => ?_
  split
  · exact forall_pure _
  · exact .bind (forall_perform.mpr rfl) fun _ => forall_pure _

theorem publishIfChanged_free (changed : Bool) (r : ReceiptRequest) (socketEvent : String)
    (at' : Nat) (conv : ConversationDocument) :
    Forall ServerCommand.CursorFree (publishIfChanged changed r socketEvent at' conv) := by
  unfold publishIfChanged
  split
  · generalize toFanoutPayload r at' = data
    induction conv.participantIds with
    | nil => exact forall_pure _
    | cons pid rest ih => exact .bind (forall_perform.mpr rfl) fun _ => ih
  · exact forall_pure _

theorem processMessageDelivered_contract (r : ReceiptRequest) (at' : Nat) :
    CursorContract none (processMessageDelivered r at') (fun _ _ => True) db := by
  unfold processMessageDelivered
  refine Ensures.bind (receiptConversation_contract r) fun conv _ _ => ?_
  exact CursorContract.of_free (.bind (setReceiptTime_free .delivered r at') fun changed =>
    publishIfChanged_free changed r _ at' conv)

/-- `message:read` writes the actor's cursor, for a message that is stored. -/
theorem processMessageRead_contract (r : ReceiptRequest) (at' now : Nat) :
    CursorContract (some (r.actorUserId, r.conversationId, r.messageId))
      (processMessageRead r at' now) (fun _ _ => True) db := by
  unfold processMessageRead
  refine Ensures.bind (receiptConversation_contract r) fun conv db' placed => ?_
  obtain ⟨place, held⟩ := placed
  refine Ensures.bind (CursorContract.keeps_place (setReceiptTime_free .seen r at') held)
    fun seen db'' held => ?_
  refine Ensures.bind (upsertConversationRead_contract r.actorUserId r.conversationId r.messageId
    at' now held) fun cursor _ _ => ?_
  exact CursorContract.of_free (publishIfChanged_free _ r _ at' conv)

theorem processConversationRead_contract (r : ReceiptRequest) (at' now : Nat) :
    CursorContract (some (r.actorUserId, r.conversationId, r.messageId))
      (processConversationRead r at' now) (fun _ _ => True) db := by
  unfold processConversationRead
  refine Ensures.bind (receiptConversation_contract r) fun conv db' placed => ?_
  obtain ⟨place, held⟩ := placed
  refine Ensures.bind (upsertConversationRead_contract r.actorUserId r.conversationId r.messageId
    at' now held) fun cursor _ _ => ?_
  exact CursorContract.of_free (publishIfChanged_free _ r _ at' conv)

end Contracts

end MessagingSystem.Source.Server

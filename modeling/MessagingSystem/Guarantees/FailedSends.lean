import MessagingSystem.Foundation.Faults
import MessagingSystem.Source.Server.SendEffects

/-!
# Failed sends

A send whose caller is told that it failed has stored no message, and a retry
that succeeds stores one, exactly when no store or broker command of the send
fails from the insert of its message on.
-/
namespace MessagingSystem.Guarantees.FailedSends
open Foundation Source.Server

/-- The command stores a message. -/
def storesMessage : {β : Type} → ServerCommand β → β → Bool
  | _, .insertMessage _, inserted => inserted
  | _, _, _ => false

/-- A request to send, with the commands of its handling that fail. -/
structure SendAttempt where
  sender : UserId
  payload : SendMessageRequest
  stamp : SendStamp
  originSocketId : Option String
  faults : Faults AppError

def SendAttempt.program (a : SendAttempt) : ServerProgram MessageDocument :=
  sendMessageForUser a.sender.val a.payload a.stamp a.originSocketId

/-- What the caller is told, and the store afterwards. -/
def SendAttempt.handle (a : SendAttempt) (db : Database) : Except AppError MessageDocument × Database :=
  a.program.runFailing ServerCommand.exec a.faults db

/-- A command fails once the message is stored: its insert, with the reply lost,
the update of the thread or one of the publishes. -/
def SendAttempt.failsStored (a : SendAttempt) (db : Database) : Bool :=
  a.program.failsCommitted ServerCommand.exec storesMessage a.faults db

/-- After a failure there is no message of the attempt, and a retry that
succeeds stores exactly its own. -/
structure NothingStored (a : SendAttempt) (db : Database) : Prop where
  stored : ∀ e after, a.handle db = (.error e, after) → after.messages = db.messages
  retried : ∀ e after, a.handle db = (.error e, after) → ∀ (retry : SendAttempt) doc final,
    retry.handle after = (.ok doc, final) → final.messages = db.messages ++ [doc]

section Commits

open Program

theorem exec_messages_iff {β : Type} (c : ServerCommand β) (db : Database) (adds : c.AddsOnly) :
    storesMessage c (c.exec db).1 = true ↔ (c.exec db).2.messages ≠ db.messages := by
  cases c with
  | insertMessage doc =>
    simp only [ServerCommand.exec, Collection.insertUnique]
    split
    · rename_i messages inserted
      split at inserted
      · cases inserted
      · cases inserted
        simp [storesMessage, Database.setMessages]
    · simp [storesMessage]
  | insertConversation doc =>
    simp only [ServerCommand.exec]
    split <;> simp [storesMessage, Database.setConversations]
  | insertDevice doc =>
    simp only [ServerCommand.exec]
    split <;> simp [storesMessage, Database.setDevices]
  | setMessageKey => cases adds
  | setReceipt => cases adds
  | upsertConversationRead => cases adds
  | _ => exact iff_of_false Bool.false_ne_true fun changed => changed rfl

theorem lookup_stores_nothing {α : Type} {p : ServerProgram α}
    (lookup : Forall ServerCommand.Lookup p) :
    Forall (fun c => ∀ reply, storesMessage c reply = false) p := by
  refine lookup.mono fun c looks reply => ?_
  cases c with
  | insertMessage => cases looks
  | _ => rfl

theorem insertDirectMessageAndPublish_commitsOnce (recipientUserId : String) (doc : MessageDocument)
    (originSocketId : Option String) : CommitsOnce storesMessage
      (insertDirectMessageAndPublish recipientUserId doc originSocketId) := by
  refine commitsOnce_command.mpr fun inserted => ?_
  cases inserted with
  | true =>
    refine ⟨fun _ _ _ => ⟨doc, rfl⟩, ?_⟩
    refine forall_command.mpr ⟨fun _ => rfl, fun _ => ?_⟩
    refine forall_command.mpr ⟨fun _ => rfl, fun _ => ?_⟩
    exact forall_command.mpr ⟨fun _ => rfl, fun _ => forall_pure doc⟩
  | false => exact commitsOnce_fail _

theorem sendToRecipient_commitsOnce (sender : UserDocument) {senderId recipientUserId : String}
    (trimmedSender : EcmaText.Trimmed senderId) (trimmedRecipient : EcmaText.Trimmed recipientUserId)
    (payload : SendMessageRequest) (stamp : SendStamp) (originSocketId : Option String) :
    CommitsOnce storesMessage
      (sendToRecipient sender senderId recipientUserId payload stamp originSocketId) := by
  unfold sendToRecipient
  refine .bind (forall_require _ _) fun _ => ?_
  refine .bind (lookup_stores_nothing (findUserById_lookup recipientUserId)) fun found => ?_
  refine .bind (forall_orFail _ _) fun recipient => ?_
  refine .bind (forall_require _ _) fun _ => ?_
  refine .bind (lookup_stores_nothing
    (resolveGuestGuestDataExpiresAt_lookup stamp senderId recipientUserId)) fun guestExp => ?_
  refine .bind (lookup_stores_nothing (findOrCreateDirectConversation_lookup trimmedSender
    trimmedRecipient stamp.conversationUuid stamp.now guestExp)) fun conv => ?_
  exact insertDirectMessageAndPublish_commitsOnce _ _ _

theorem sendToConversation_commitsOnce (sender : UserDocument) (senderId conversationId : String)
    (payload : SendMessageRequest) (stamp : SendStamp) (originSocketId : Option String) :
    CommitsOnce storesMessage
      (sendToConversation sender senderId conversationId payload stamp originSocketId) := by
  unfold sendToConversation
  refine .bind (lookup_stores_nothing (requireDirectThread_lookup conversationId)) fun conv => ?_
  refine .bind (forall_require _ _) fun _ => ?_
  refine .bind (forall_orFail _ _) fun recipientUserId => ?_
  refine .bind (lookup_stores_nothing (findUserById_lookup recipientUserId)) fun found => ?_
  refine .bind (forall_orFail _ _) fun recipient => ?_
  refine .bind (forall_require _ _) fun _ => ?_
  refine .bind (lookup_stores_nothing
    (resolveGuestGuestDataExpiresAt_lookup stamp senderId recipientUserId)) fun _ => ?_
  exact insertDirectMessageAndPublish_commitsOnce _ _ _

theorem sendMessageForUser_commitsOnce (sender : UserId) (payload : SendMessageRequest)
    (stamp : SendStamp) (originSocketId : Option String) :
    CommitsOnce storesMessage (sendMessageForUser sender.val payload stamp originSocketId) := by
  unfold sendMessageForUser
  refine .bind (lookup_stores_nothing (findUserById_lookup sender.val)) fun found => ?_
  refine .bind (forall_orFail _ _) fun senderDoc => ?_
  dsimp only
  refine .ite ?_ (.ite ?_ ?_)
  · exact sendToRecipient_commitsOnce senderDoc sender.trimmed (EcmaText.trimmed_trim _) payload
      stamp originSocketId
  · exact sendToConversation_commitsOnce senderDoc sender.val _ payload stamp originSocketId
  · exact commitsOnce_fail _

end Commits

/-- A success adds the message it answers. -/
theorem SendAttempt.handle_ok {a : SendAttempt} {db after : Database} {doc : MessageDocument}
    (success : a.handle db = (.ok doc, after)) : after.messages = db.messages ++ [doc] := by
  have answered : (a.handle db).1 = .ok doc := by rw [success]
  have ran : a.handle db = a.program.run ServerCommand.exec db := Program.runFailing_ok answered
  exact sendMessageForUser_stores (ran.symm.trans success)

/-- A failed send has stored nothing exactly when no command fails once its
message is stored. -/
theorem failed_send_stores_nothing_iff (a : SendAttempt) (db : Database) :
    a.failsStored db = false ↔ NothingStored a db := by
  have once := sendMessageForUser_commitsOnce a.sender a.payload a.stamp a.originSocketId
  have adds := sendMessageForUser_addsOnly a.sender a.payload a.stamp a.originSocketId
  have kept : a.failsStored db = false ↔
      ((∃ e, (a.handle db).1 = .error e) → (a.handle db).2.messages = db.messages) :=
    once.error_keeps_iff adds (fun c s adds => exec_messages_iff c s adds) a.faults db
  refine Iff.trans kept ⟨fun unchanged => ?_, fun nothing failed => ?_⟩
  · have stored : ∀ e after, a.handle db = (.error e, after) → after.messages = db.messages := by
      intro e after failed
      have same := unchanged ⟨e, congrArg Prod.fst failed⟩
      exact (congrArg (fun told => told.2.messages) failed).symm.trans same
    refine ⟨stored, fun e after failed retry doc final success => ?_⟩
    rw [retry.handle_ok success, stored e after failed]
  · obtain ⟨e, told⟩ := failed
    exact nothing.stored e _ (Prod.ext told rfl)

section Runs

def twoUsers : Database := { users := [⟨"alice", false, none⟩, ⟨"bob", false, none⟩] }

/-- `alice` writes to `bob` while the broker is not connected: the publish, the
tenth command of the send, throws. -/
def unpublished : SendAttempt where
  sender := UserId.alice
  payload := { recipientUserId := .value "bob", body := .value "hi" }
  stamp := ⟨"c", "m", 1, 86400⟩
  originSocketId := none
  faults n := if n = 9 then some (.before internalServerError) else none

/-- The message stays although `alice` is told that the send failed. -/
theorem unpublished_message_stored : ¬ ∀ (a : SendAttempt) (db : Database), NothingStored a db := by
  intro claim
  have told : (unpublished.handle twoUsers).1 = .error internalServerError := rfl
  have stored : (unpublished.handle twoUsers).2.messages.map MessageDocument.id = ["m"] := by decide
  have nothing := (claim unpublished twoUsers).stored internalServerError
    (unpublished.handle twoUsers).2 (Prod.ext told rfl)
  rw [nothing] at stored
  exact absurd stored (by decide)

end Runs

end MessagingSystem.Guarantees.FailedSends

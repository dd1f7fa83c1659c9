import MessagingSystem.Source.Server.ProgramEffects

/-!
# What a send stores and publishes

A send that succeeds has resolved its thread and its recipient, stores one
message and hands exactly two messages to the broker: the message for the
recipient, and its echo for the sender.
-/
namespace MessagingSystem.Source.Server
open Foundation

/-- The user a send is addressed to: the recipient it names, or else the other
participant of the thread it names. -/
def recipientOf (db : Database) (senderId : String) (payload : SendMessageRequest) :
    Option String :=
  if trimmedField payload.recipientUserId ≠ "" then some (trimmedField payload.recipientUserId)
  else
    (db.conversations.find? fun c => c.id = trimmedField payload.conversationId).bind fun conv =>
      conv.participantIds.find? fun id => id ≠ senderId

/-- The two broker messages of a stored message. -/
def directMessages (recipientUserId : String) (doc : MessageDocument)
    (originSocketId : Option String) : List (String × Json) :=
  [("message.user." ++ recipientUserId, messageDocumentToApi doc),
    ("message.user." ++ doc.senderId, senderEcho (messageDocumentToApi doc) originSocketId)]

section Inversion

variable {α β : Type} {db after : Database}

/-- A successful sequence, split at its first part. -/
theorem ServerProgram.exec_bind_ok {p : ServerProgram α} {f : α → ServerProgram β} {b : β}
    (success : ServerProgram.exec (p >>= f) db = (.ok b, after)) :
    ∃ a middle, ServerProgram.exec p db = (.ok a, middle) ∧
      ServerProgram.exec (f a) middle = (.ok b, after) := by
  unfold ServerProgram.exec at success ⊢
  rw [Program.run_bind] at success
  cases ran : Program.run ServerCommand.exec p db with
  | mk result middle =>
    rw [ran] at success
    cases result with
    | ok a => exact ⟨a, middle, rfl, success⟩
    | error e => cases success

theorem ServerProgram.exec_require_ok {condition : Bool} {e : AppError} {u : Unit}
    (success : ServerProgram.exec (.require condition e) db = (.ok u, after)) :
    condition = true ∧ after = db := by
  unfold ServerProgram.exec at success
  cases condition with
  | true => exact ⟨rfl, (Prod.ext_iff.mp success).2.symm⟩
  | false => cases success

theorem ServerProgram.exec_orFail_ok {found : Option α} {e : AppError} {a : α}
    (success : ServerProgram.exec (.orFail found e) db = (.ok a, after)) :
    found = some a ∧ after = db := by
  unfold ServerProgram.exec at success
  cases found with
  | some a' =>
    cases success
    exact ⟨rfl, rfl⟩
  | none => cases success

end Inversion

section Lookups

variable {db after : Database}

theorem findUserById_exec (id : String) (db : Database) :
    ServerProgram.exec (findUserById id) db =
      (.ok (if EcmaText.trim id = "" then none
        else db.users.find? fun u => u.id = EcmaText.trim id), db) := by
  unfold findUserById
  dsimp only
  split <;> rfl

/-- The user the lookup of an id answers. -/
def Database.lookedUpUser (db : Database) (id : String) : Option UserDocument :=
  if EcmaText.trim id = "" then none else db.users.find? fun u => u.id = EcmaText.trim id

/-- The expiry date a send of two users gives its message. -/
def Database.guestExpiry (db : Database) (stamp : SendStamp) (senderId recipientId : String) : Option Nat :=
  if ((db.lookedUpUser senderId).any fun u => u.isGuest) &&
      (db.lookedUpUser recipientId).any fun u => u.isGuest then
    computeGuestDataExpiresAt stamp db.runtimeConfig
  else none

theorem resolveGuestGuestDataExpiresAt_exec (stamp : SendStamp) (senderId recipientId : String)
    (db : Database) :
    ServerProgram.exec (resolveGuestGuestDataExpiresAt stamp senderId recipientId) db =
      (.ok (db.guestExpiry stamp senderId recipientId), db) := by
  have lookup : ∀ id, Program.run ServerCommand.exec (findUserById id) db =
      (.ok (db.lookedUpUser id), db) := fun id => findUserById_exec id db
  unfold ServerProgram.exec resolveGuestGuestDataExpiresAt Database.guestExpiry
  rw [Program.run_bind, Program.run_perform]
  dsimp only [ServerCommand.exec]
  split
  · rw [Program.run_bind, lookup]
    dsimp only
    rw [Program.run_bind, lookup]
    dsimp only
    generalize (db.lookedUpUser senderId).any (fun u => u.isGuest) = first
    generalize (db.lookedUpUser recipientId).any (fun u => u.isGuest) = second
    cases first <;> cases second <;> rfl
  · rename_i off
    simp [computeGuestDataExpiresAt, off]

theorem requireDirectThread_finds {conversationId : String} {conv : ConversationDocument}
    (success : ServerProgram.exec (requireDirectThread conversationId) db = (.ok conv, after)) :
    (db.conversations.find? fun c => c.id = EcmaText.trim conversationId) = some conv ∧
      conv.isGroup = false ∧ after = db := by
  unfold requireDirectThread lookupConversationById at success
  obtain ⟨found, middle, lookup, success⟩ := ServerProgram.exec_bind_ok success
  dsimp only at lookup
  split at lookup
  · cases lookup
    cases success
  · obtain ⟨reply, _, command, mapped⟩ := ServerProgram.exec_bind_ok lookup
    cases command
    cases mapped
    simp only [ServerCommand.exec] at success
    cases row : db.conversations.find? fun c => c.id = EcmaText.trim conversationId with
    | none =>
      rw [row] at success
      cases success
    | some c =>
      rw [row] at success
      simp only [Option.map_some] at success
      split at success
      · rename_i none
        cases none
      · cases success
      · rename_i direct
        cases success
        split at direct
        · cases direct
        · rename_i single
          cases direct
          exact ⟨rfl, by simpa using single, rfl⟩

end Lookups

section Send

variable {db after : Database} {doc stored : MessageDocument}

theorem insertDirectMessageAndPublish_stores {recipientUserId : String}
    {originSocketId : Option String}
    (success : ServerProgram.exec
      (insertDirectMessageAndPublish recipientUserId doc originSocketId) db = (.ok stored, after)) :
    stored = doc ∧ after.messages = db.messages ++ [doc] ∧
      after.published = db.published ++ directMessages recipientUserId doc originSocketId := by
  unfold insertDirectMessageAndPublish insertMessage at success
  obtain ⟨_, inserted, insertion, success⟩ := ServerProgram.exec_bind_ok success
  obtain ⟨reply, middle, command, insertion⟩ := ServerProgram.exec_bind_ok insertion
  obtain ⟨_, checkedDb, checked, touched⟩ := ServerProgram.exec_bind_ok insertion
  obtain ⟨taken, unchanged⟩ := ServerProgram.exec_require_ok checked
  have ran : (ServerCommand.insertMessage doc).exec db = (reply, middle) := by
    cases command
    rfl
  have first : middle.messages = db.messages ++ [doc] ∧ middle.published = db.published := by
    simp only [ServerCommand.exec, Collection.insertUnique] at ran
    split at ran
    · rename_i messages appended
      cases ran
      split at appended
      · cases appended
      · cases appended
        exact ⟨rfl, rfl⟩
    · cases ran
      cases taken
  have second : inserted.messages = middle.messages ∧ inserted.published = middle.published := by
    cases touched
    exact unchanged ▸ ⟨rfl, rfl⟩
  cases success
  refine ⟨rfl, second.1.trans first.1, ?_⟩
  simp [ServerCommand.exec, directMessages, second.2, first.2]

theorem trimmedField_trimmed (f : Nullable String) : EcmaText.Trimmed (trimmedField f) :=
  EcmaText.trimmed_trim _

variable {senderId : String} {payload : SendMessageRequest} {stamp : SendStamp}
  {originSocketId : Option String}

/-- A successful send to a recipient has found or created the pair's thread. -/
theorem sendToRecipient_inserts {senderDoc : UserDocument} {recipientUserId : String}
    (success : ServerProgram.exec (sendToRecipient senderDoc senderId recipientUserId payload stamp
      originSocketId) db = (.ok doc, after)) :
    recipientUserId ≠ senderId ∧ ∃ conv resolved,
      ServerProgram.exec (findOrCreateDirectConversation senderId recipientUserId
        stamp.conversationUuid stamp.now (db.guestExpiry stamp senderId recipientUserId)) db =
          (.ok conv, resolved) ∧
      ServerProgram.exec (insertDirectMessageAndPublish recipientUserId
        (newMessage conv.id senderId payload stamp (db.guestExpiry stamp senderId recipientUserId))
          originSocketId) resolved = (.ok doc, after) := by
  unfold sendToRecipient assertGuestGuestDirectMessagingAllowed at success
  obtain ⟨_, s1, other, success⟩ := ServerProgram.exec_bind_ok success
  obtain ⟨found, s2, lookup, success⟩ := ServerProgram.exec_bind_ok success
  obtain ⟨recipient, s3, present, success⟩ := ServerProgram.exec_bind_ok success
  obtain ⟨_, s4, allowed, success⟩ := ServerProgram.exec_bind_ok success
  obtain ⟨_, s5, expiry, success⟩ := ServerProgram.exec_bind_ok success
  obtain ⟨conv, s6, thread, inserted⟩ := ServerProgram.exec_bind_ok success
  clear success
  obtain ⟨different, rfl⟩ := ServerProgram.exec_require_ok other
  rw [findUserById_exec] at lookup
  obtain rfl := (Prod.ext_iff.mp lookup).2
  obtain ⟨-, rfl⟩ := ServerProgram.exec_orFail_ok present
  obtain ⟨-, rfl⟩ := ServerProgram.exec_require_ok allowed
  rw [resolveGuestGuestDataExpiresAt_exec] at expiry
  cases expiry
  exact ⟨by simpa using different, conv, s6, thread, inserted⟩

/-- A successful send to a thread has found it, with the sender and a known recipient in it. -/
theorem sendToConversation_inserts {senderDoc : UserDocument} {conversationId : String}
    (success : ServerProgram.exec (sendToConversation senderDoc senderId conversationId payload stamp
      originSocketId) db = (.ok doc, after)) :
    ∃ conv recipientUserId,
      (db.conversations.find? fun c => c.id = EcmaText.trim conversationId) = some conv ∧
      conv.isGroup = false ∧ senderId ∈ conv.participantIds ∧
      (conv.participantIds.find? fun id => id ≠ senderId) = some recipientUserId ∧
      EcmaText.trim recipientUserId ≠ "" ∧
      ServerProgram.exec (insertDirectMessageAndPublish recipientUserId
        (newMessage conv.id senderId payload stamp (db.guestExpiry stamp senderId recipientUserId))
          originSocketId) db = (.ok doc, after) := by
  unfold sendToConversation assertGuestGuestDirectMessagingAllowed at success
  obtain ⟨conv, s1, thread, success⟩ := ServerProgram.exec_bind_ok success
  obtain ⟨_, s2, participant, success⟩ := ServerProgram.exec_bind_ok success
  obtain ⟨recipientUserId, s3, other, success⟩ := ServerProgram.exec_bind_ok success
  obtain ⟨found, s4, lookup, success⟩ := ServerProgram.exec_bind_ok success
  obtain ⟨recipient, s5, present, success⟩ := ServerProgram.exec_bind_ok success
  obtain ⟨_, s6, allowed, success⟩ := ServerProgram.exec_bind_ok success
  obtain ⟨_, s7, expiry, inserted⟩ := ServerProgram.exec_bind_ok success
  clear success
  obtain ⟨named, direct, rfl⟩ := requireDirectThread_finds thread
  obtain ⟨member, rfl⟩ := ServerProgram.exec_require_ok participant
  obtain ⟨addressed, rfl⟩ := ServerProgram.exec_orFail_ok other
  rw [findUserById_exec] at lookup
  obtain ⟨result, rfl⟩ := Prod.ext_iff.mp lookup
  obtain ⟨known, rfl⟩ := ServerProgram.exec_orFail_ok present
  obtain ⟨-, rfl⟩ := ServerProgram.exec_require_ok allowed
  rw [resolveGuestGuestDataExpiresAt_exec] at expiry
  cases expiry
  refine ⟨conv, recipientUserId, named, direct, by simpa using member, addressed, ?_, inserted⟩
  intro blank
  rw [if_pos blank] at result
  cases result
  cases known

/-- A successful send stores and publishes its message after lookups only. -/
theorem sendMessageForUser_inserts {sender : UserId}
    (success : ServerProgram.exec (sendMessageForUser sender.val payload stamp originSocketId) db =
      (.ok doc, after)) :
    ∃ (recipientUserId conversationId : String) (resolved : Database),
      recipientOf db sender.val payload = some recipientUserId ∧ recipientUserId ≠ sender.val ∧
      EcmaText.trim recipientUserId ≠ "" ∧
      (db.TrimmedParticipants → EcmaText.Trimmed recipientUserId) ∧ db.Unsent resolved ∧
      ServerProgram.exec (insertDirectMessageAndPublish recipientUserId
        (newMessage conversationId sender.val payload stamp
          (db.guestExpiry stamp sender.val recipientUserId)) originSocketId) resolved =
            (.ok doc, after) := by
  unfold sendMessageForUser at success
  obtain ⟨found, s1, lookup, resolved⟩ := ServerProgram.exec_bind_ok success
  obtain ⟨senderDoc, s2, present, dispatch⟩ := ServerProgram.exec_bind_ok resolved
  clear success resolved
  rw [findUserById_exec] at lookup
  obtain rfl := (Prod.ext_iff.mp lookup).2
  obtain ⟨-, rfl⟩ := ServerProgram.exec_orFail_ok present
  dsimp only at dispatch
  split at dispatch
  · rename_i named
    have clean := trimmedField_trimmed payload.recipientUserId
    obtain ⟨different, conv, resolved, thread, inserted⟩ := sendToRecipient_inserts dispatch
    have unsent := ServerProgram.exec_unsent (findOrCreateDirectConversation_lookup
      sender.trimmed clean stamp.conversationUuid stamp.now (s2.guestExpiry stamp sender.val (trimmedField payload.recipientUserId))) s2
    rw [thread] at unsent
    refine ⟨_, conv.id, resolved, ?_, different, ?_, fun _ => clean, unsent, inserted⟩
    · rw [recipientOf, if_pos named]
    · rw [show EcmaText.trim _ = _ from clean]
      exact named
  · rename_i unnamed
    split at dispatch
    · obtain ⟨conv, recipient, thread, -, -, addressed, nonblank, inserted⟩ :=
        sendToConversation_inserts dispatch
      have member := List.mem_of_find?_eq_some addressed
      have different : recipient ≠ sender.val := by simpa using List.find?_some addressed
      refine ⟨recipient, conv.id, s2, ?_, different, nonblank, fun trimmed => ?_, .refl s2, inserted⟩
      · have trimmedId : EcmaText.trim (trimmedField payload.conversationId) =
            trimmedField payload.conversationId := trimmedField_trimmed payload.conversationId
        rw [recipientOf, if_neg unnamed, ← trimmedId, thread]
        exact addressed
      · exact trimmed conv (List.mem_of_find?_eq_some thread) recipient member
    · cases dispatch

/-- A successful send adds its message to those stored. -/
theorem sendMessageForUser_stores {sender : UserId}
    (success : ServerProgram.exec (sendMessageForUser sender.val payload stamp originSocketId) db =
      (.ok doc, after)) : after.messages = db.messages ++ [doc] := by
  obtain ⟨recipient, conversationId, resolved, -, -, -, -, unsent, inserted⟩ :=
    sendMessageForUser_inserts success
  obtain ⟨rfl, stored, -⟩ := insertDirectMessageAndPublish_stores inserted
  rwa [unsent.messages] at stored

/-- A successful send publishes its message for the recipient and, as an echo,
for the sender. -/
theorem sendMessageForUser_publishes {sender : UserId} (trimmed : db.TrimmedParticipants)
    (success : ServerProgram.exec (sendMessageForUser sender.val payload stamp originSocketId) db =
      (.ok doc, after)) :
    ∃ recipient : UserId, recipientOf db sender.val payload = some recipient.val ∧
      recipient.val ≠ sender.val ∧ doc.senderId = sender.val ∧
      after.published = db.published ++ directMessages recipient.val doc originSocketId := by
  obtain ⟨recipient, conversationId, resolved, addressed, different, nonblank, clean, unsent,
    inserted⟩ := sendMessageForUser_inserts success
  obtain ⟨rfl, -, published⟩ := insertDirectMessageAndPublish_stores inserted
  have plain : EcmaText.trim recipient = recipient := clean trimmed
  rw [unsent.published] at published
  exact ⟨⟨recipient, clean trimmed, plain ▸ nonblank⟩, addressed, different, rfl, published⟩

end Send

end MessagingSystem.Source.Server

import MessagingSystem.Source.Server.SendEffects

/-!
# How a send ends

A send that runs without interruption, under a message id that is new, is
rejected and leaves the store as it is, or it resolves its thread, which it may
have to create, and stores its message there.
-/
namespace MessagingSystem.Source.Server
open Foundation

/-- The thread `findOrCreateDirectConversation` inserts. -/
def newDirectThread (userA userB uuid : String) (now : Nat) (guestDataExpiresAt : Option Nat) :
    ConversationDocument :=
  { id := uuid
    directPairKey := some (directPairKey userA userB)
    participantIds := [(EcmaText.sortPair userA userB).1, (EcmaText.sortPair userA userB).2]
    isGroup := false
    createdAt := now
    updatedAt := now
    guestDataExpiresAt := guestDataExpiresAt }

/-- The conversation a send joins when there is one: the pair's, or the one it names. -/
def Database.existingThread (db : Database) (senderId : String) (payload : SendMessageRequest) :
    Option ConversationDocument :=
  if trimmedField payload.recipientUserId ≠ "" then
    db.conversations.find? fun c =>
      c.directPairKey = some (directPairKey senderId (trimmedField payload.recipientUserId)) && !c.isGroup
  else db.conversations.find? fun c => c.id = trimmedField payload.conversationId

/-- The thread a send resolves, and the store it finds or leaves it in. -/
inductive ThreadResolved (db : Database) (senderId : String) (payload : SendMessageRequest)
    (stamp : SendStamp) (guestExp : Option Nat) : ConversationDocument → Database → Prop where
  | named (conv : ConversationDocument) (joined : db.existingThread senderId payload = some conv)
      (stored : conv ∈ db.conversations)
      (direct : conv.isGroup = false) (member : senderId ∈ conv.participantIds) :
      ThreadResolved db senderId payload stamp guestExp conv db
  | held (conv : ConversationDocument) (recipient : String)
      (joined : db.existingThread senderId payload = some conv)
      (known : ∃ u ∈ db.users, u.id = recipient) (stored : conv ∈ db.conversations)
      (direct : conv.isGroup = false)
      (pair : conv.directPairKey = some (directPairKey senderId recipient)) :
      ThreadResolved db senderId payload stamp guestExp conv db
  | created (recipient : String) (known : ∃ u ∈ db.users, u.id = recipient)
      (different : recipient ≠ senderId) (missing : db.existingThread senderId payload = none)
      (free : db.conversations.any (Database.conflictsWith
        (newDirectThread senderId recipient stamp.conversationUuid stamp.now guestExp)) = false) :
      ThreadResolved db senderId payload stamp guestExp
        (newDirectThread senderId recipient stamp.conversationUuid stamp.now guestExp)
        (db.setConversations (db.conversations ++
          [newDirectThread senderId recipient stamp.conversationUuid stamp.now guestExp]))

/-- `$set: { updatedAt }`. -/
def ConversationDocument.touched (now : Nat) (c : ConversationDocument) : ConversationDocument :=
  { c with updatedAt := now }

namespace Database

/-- The store with a message inserted and handed to the broker. -/
def messageSent (recipientUserId : String) (doc : MessageDocument) (originSocketId : Option String)
    (db : Database) : Database :=
  { db with
    messages := db.messages ++ [doc]
    conversations := Collection.updateFirst (fun c => c.id = doc.conversationId)
      (ConversationDocument.touched doc.createdAt) db.conversations
    published := db.published ++ directMessages recipientUserId doc originSocketId }

end Database

section Sequence

variable {α β : Type} {db after : Database} {p : ServerProgram α} {f : α → ServerProgram β}

theorem ServerProgram.exec_bind_of_ok {a : α} (ran : ServerProgram.exec p db = (.ok a, after)) :
    ServerProgram.exec (p >>= f) db = ServerProgram.exec (f a) after := by
  unfold ServerProgram.exec at ran ⊢
  rw [Program.run_bind, ran]

theorem ServerProgram.exec_bind_of_error {e : AppError}
    (ran : ServerProgram.exec p db = (.error e, after)) :
    ServerProgram.exec (p >>= f) db = (.error e, after) := by
  unfold ServerProgram.exec at ran ⊢
  rw [Program.run_bind, ran]

/-- A program is rejected without effect, or goes on from where `Q` says. -/
def RejectedOr (p : ServerProgram α) (db : Database) (Q : α → Database → Prop) : Prop :=
  (∃ e, ServerProgram.exec p db = (.error e, db)) ∨
    ∃ a after, ServerProgram.exec p db = (.ok a, after) ∧ Q a after

/-- A first part that only reads, and the rest. -/
theorem RejectedOr.bind {Q : α → Prop} {R : β → Database → Prop}
    (first : RejectedOr p db fun a after => after = db ∧ Q a)
    (rest : ∀ a, Q a → RejectedOr (f a) db R) : RejectedOr (p >>= f) db R := by
  rcases first with ⟨e, failed⟩ | ⟨a, middle, ran, rfl, holds⟩
  · exact .inl ⟨e, ServerProgram.exec_bind_of_error failed⟩
  · unfold RejectedOr
    rw [ServerProgram.exec_bind_of_ok ran]
    exact rest a holds

theorem rejectedOr_require {condition : Bool} {e : AppError} :
    RejectedOr (.require condition e) db fun _ after => after = db ∧ condition = true := by
  cases condition with
  | true => exact .inr ⟨(), db, rfl, rfl, rfl⟩
  | false => exact .inl ⟨e, rfl⟩

theorem rejectedOr_orFail {found : Option α} {e : AppError} :
    RejectedOr (.orFail found e) db fun a after => after = db ∧ found = some a := by
  cases found with
  | some a => exact .inr ⟨a, db, rfl, rfl, rfl⟩
  | none => exact .inl ⟨e, rfl⟩

theorem rejectedOr_fail {e : AppError} {Q : α → Database → Prop} :
    RejectedOr (.fail e) db Q := .inl ⟨e, rfl⟩

end Sequence

section Lookups

variable {db : Database}

theorem lookedUpUser_mem {id : String} {u : UserDocument} (found : db.lookedUpUser id = some u) :
    u ∈ db.users ∧ u.id = EcmaText.trim id := by
  unfold Database.lookedUpUser at found
  split at found
  · cases found
  · exact ⟨List.mem_of_find?_eq_some found, by simpa using List.find?_some found⟩

theorem findUserById_rejectedOr (id : String) :
    RejectedOr (findUserById id) db fun found after => after = db ∧ found = db.lookedUpUser id :=
  .inr ⟨_, db, findUserById_exec id db, rfl, rfl⟩

theorem resolveGuestGuestDataExpiresAt_rejectedOr (stamp : SendStamp) (senderId recipientId : String) :
    RejectedOr (resolveGuestGuestDataExpiresAt stamp senderId recipientId) db fun guestExp after =>
      after = db ∧ guestExp = db.guestExpiry stamp senderId recipientId :=
  .inr ⟨_, db, resolveGuestGuestDataExpiresAt_exec stamp senderId recipientId db, rfl, rfl⟩

/-- The thread of a pair is looked up by its key, then by its id. -/
theorem existingDirectConversation_run (unique : (db.conversations.map ConversationDocument.id).Nodup)
    {userA userB : String} (different : userA ≠ userB) :
    ServerProgram.exec (existingDirectConversation userA userB) db =
      (.ok (db.conversations.find? fun c =>
        c.directPairKey = some (directPairKey userA userB) && !c.isGroup), db) := by
  unfold existingDirectConversation findDirectConversationIdBetween
  rw [if_neg different]
  cases held : db.conversations.find? fun c =>
      c.directPairKey = some (directPairKey userA userB) && !c.isGroup with
  | none =>
    simp only [ServerProgram.exec, Program.run_bind, Program.run_perform, Program.run_pure,
      ServerCommand.exec, held, Option.map_none]
  | some conv =>
    have member := List.mem_of_find?_eq_some held
    have byId : (db.conversations.find? fun c => c.id = conv.id) = some conv :=
      (Collection.find_key unique).mpr ⟨member, rfl⟩
    simp only [ServerProgram.exec, Program.run_bind, Program.run_perform, Program.run_pure,
      ServerCommand.exec, held, Option.map_some, byId]

theorem findOrCreateDirectConversation_rejectedOr
    (unique : (db.conversations.map ConversationDocument.id).Nodup) {senderId recipientId : String}
    (different : recipientId ≠ senderId) (known : ∃ u ∈ db.users, u.id = recipientId)
    {payload : SendMessageRequest} (named : trimmedField payload.recipientUserId = recipientId)
    (nonblank : recipientId ≠ "") (stamp : SendStamp) (guestExp : Option Nat) :
    RejectedOr (findOrCreateDirectConversation senderId recipientId stamp.conversationUuid stamp.now
      guestExp) db
      (ThreadResolved db senderId payload stamp guestExp) := by
  have existing := existingDirectConversation_run unique different.symm
  have joined : db.existingThread senderId payload = db.conversations.find? fun c =>
      c.directPairKey = some (directPairKey senderId recipientId) && !c.isGroup := by
    unfold Database.existingThread
    rw [named, if_pos nonblank]
  unfold findOrCreateDirectConversation RejectedOr
  rw [ServerProgram.exec_bind_of_ok existing]
  cases held : db.conversations.find? fun c =>
      c.directPairKey = some (directPairKey senderId recipientId) && !c.isGroup with
  | some conv =>
    have matched := List.find?_some held
    simp only [Bool.and_eq_true, decide_eq_true_eq, Bool.not_eq_true'] at matched
    exact .inr ⟨conv, db, rfl, 
      .held conv recipientId (joined.trans held) known (List.mem_of_find?_eq_some held)
      matched.2 matched.1⟩
  | none =>
    dsimp only
    cases free : db.conversations.any (Database.conflictsWith
        (newDirectThread senderId recipientId stamp.conversationUuid stamp.now guestExp)) with
    | false =>
      refine .inr ⟨_, _, ?_, .created recipientId known different (joined.trans held) free⟩
      unfold newDirectThread at free ⊢
      simp [ServerProgram.exec, ServerCommand.exec, free, Program.run]
    | true =>
      left
      rw [held] at existing
      refine ⟨⟨"INTERNAL_ERROR", 500, "Internal server error"⟩, ?_⟩
      have inserted : ServerProgram.exec (.perform (.insertConversation
          (newDirectThread senderId recipientId stamp.conversationUuid stamp.now guestExp))) db =
          (.ok false, db) := by
        simp [ServerProgram.exec, ServerCommand.exec, free]
      refine (ServerProgram.exec_bind_of_ok inserted).trans ?_
      rw [if_neg Bool.false_ne_true, ServerProgram.exec_bind_of_ok existing]
      rfl

theorem requireDirectThread_rejectedOr (conversationId : String) :
    RejectedOr (requireDirectThread conversationId) db fun conv after =>
      after = db ∧ conv ∈ db.conversations ∧ conv.isGroup = false ∧
        (db.conversations.find? fun c => c.id = EcmaText.trim conversationId) = some conv := by
  unfold requireDirectThread lookupConversationById
  dsimp only
  split
  · exact .inl ⟨_, rfl⟩
  · cases row : db.conversations.find? fun c => c.id = EcmaText.trim conversationId with
    | none =>
      refine .inl ⟨⟨"NOT_FOUND", 404, "Conversation not found"⟩, ?_⟩
      simp [ServerProgram.exec, ServerCommand.exec, row, Program.run]
    | some conv =>
      cases group : conv.isGroup with
      | true =>
        refine .inl ⟨⟨"FORBIDDEN", 403, "Group messaging is not supported yet"⟩, ?_⟩
        simp [ServerProgram.exec, ServerCommand.exec, row, group, Program.run]
      | false =>
        refine .inr ⟨conv, db, ?_, rfl, List.mem_of_find?_eq_some row, group, rfl⟩
        simp [ServerProgram.exec, ServerCommand.exec, row, group, Program.run]

end Lookups

section Send

variable {db : Database}

theorem insertDirectMessageAndPublish_run (recipientUserId : String) {doc : MessageDocument}
    (originSocketId : Option String) (fresh : doc.id ∉ db.messages.map MessageDocument.id) :
    ServerProgram.exec (insertDirectMessageAndPublish recipientUserId doc originSocketId) db =
      (.ok doc, db.messageSent recipientUserId doc originSocketId) := by
  have inserted : Collection.insertUnique MessageDocument.id doc db.messages =
      some (db.messages ++ [doc]) := if_neg fresh
  simp [ServerProgram.exec, insertDirectMessageAndPublish, insertMessage, ServerCommand.exec,
    inserted, Program.run, Database.messageSent, Database.setMessages, Database.setConversations,
    directMessages]
  rfl

theorem ThreadResolved.messages {senderId : String} {payload : SendMessageRequest} {stamp : SendStamp} {guestExp : Option Nat} {conv : ConversationDocument}
    {resolved : Database} (thread : ThreadResolved db senderId payload stamp guestExp conv resolved) :
    resolved.messages = db.messages := by
  cases thread <;> rfl

variable {senderId : String} {payload : SendMessageRequest} {stamp : SendStamp}
  {originSocketId : Option String}

/-- Resolving a thread keeps the ids of the conversations distinct. -/
theorem ThreadResolved.threadIds {senderId : String} {payload : SendMessageRequest} {stamp : SendStamp}
    {guestExp : Option Nat} {conv : ConversationDocument} {resolved : Database}
    (thread : ThreadResolved db senderId payload stamp guestExp conv resolved)
    (unique : (db.conversations.map ConversationDocument.id).Nodup) :
    (resolved.conversations.map ConversationDocument.id).Nodup := by
  cases thread with
  | named => exact unique
  | held => exact unique
  | created recipient known different missing free =>
    have unused : stamp.conversationUuid ∉ db.conversations.map ConversationDocument.id := by
      intro used
      obtain ⟨c, stored, same⟩ := List.mem_map.mp used
      have clash := List.any_eq_false.mp free c stored
      simp [Database.conflictsWith, newDirectThread, same] at clash
    simp only [Database.setConversations, List.map_append, List.map_cons, List.map_nil]
    refine List.nodup_append.mpr ⟨unique, List.nodup_singleton _, ?_⟩
    intro x old y new
    obtain rfl := List.mem_singleton.mp new
    rintro rfl
    exact unused old

/-- A send's message in its thread, for a known recipient. -/
def SendStores (db : Database) (senderId : String) (payload : SendMessageRequest) (stamp : SendStamp)
    (originSocketId : Option String) (doc : MessageDocument) (after : Database) : Prop :=
  ∃ conv resolved recipientUserId, (db.lookedUpUser recipientUserId).isSome = true ∧
    ThreadResolved db senderId payload stamp (db.guestExpiry stamp senderId recipientUserId) conv resolved ∧
    doc = newMessage conv.id senderId payload stamp (db.guestExpiry stamp senderId recipientUserId) ∧
    after = resolved.messageSent recipientUserId doc originSocketId

theorem sendStores_insert {conv : ConversationDocument} {resolved : Database} {recipientUserId : String}
    (known : (db.lookedUpUser recipientUserId).isSome = true)
    (thread : ThreadResolved db senderId payload stamp (db.guestExpiry stamp senderId recipientUserId) conv resolved)
    (fresh : stamp.messageUuid ∉ db.messages.map MessageDocument.id) :
    ∃ doc after, ServerProgram.exec (insertDirectMessageAndPublish recipientUserId
        (newMessage conv.id senderId payload stamp (db.guestExpiry stamp senderId recipientUserId))
          originSocketId) resolved = (.ok doc, after) ∧
      SendStores db senderId payload stamp originSocketId doc after := by
  have unused : stamp.messageUuid ∉ resolved.messages.map MessageDocument.id := by
    rw [thread.messages]
    exact fresh
  exact ⟨_, _, insertDirectMessageAndPublish_run recipientUserId originSocketId unused,
    conv, resolved, recipientUserId, known, thread, rfl, rfl⟩

theorem sendToRecipient_rejectedOr (unique : (db.conversations.map ConversationDocument.id).Nodup)
    (fresh : stamp.messageUuid ∉ db.messages.map MessageDocument.id) (sender : UserDocument)
    {recipientUserId : String} (addressed : trimmedField payload.recipientUserId = recipientUserId)
    (nonblank : recipientUserId ≠ "") :
    RejectedOr (sendToRecipient sender senderId recipientUserId payload stamp originSocketId) db
      (SendStores db senderId payload stamp originSocketId) := by
  unfold sendToRecipient assertGuestGuestDirectMessagingAllowed
  refine rejectedOr_require.bind fun _ different => ?_
  refine (findUserById_rejectedOr recipientUserId).bind fun found stored => ?_
  refine rejectedOr_orFail.bind fun recipient present => ?_
  refine rejectedOr_require.bind fun _ _ => ?_
  refine (resolveGuestGuestDataExpiresAt_rejectedOr stamp senderId recipientUserId).bind
    fun guestExp expiry => ?_
  subst expiry
  have found : db.lookedUpUser recipientUserId = some recipient := stored ▸ present
  obtain ⟨held, named⟩ := lookedUpUser_mem found
  have clean : EcmaText.Trimmed recipientUserId := addressed ▸ trimmedField_trimmed _
  have known : ∃ u ∈ db.users, u.id = recipientUserId := ⟨recipient, held, named.trans clean⟩
  rcases findOrCreateDirectConversation_rejectedOr unique (by simpa using different) known addressed
      nonblank stamp (db.guestExpiry stamp senderId recipientUserId) with ⟨e, failed⟩ | ⟨conv, resolved, ran, thread⟩
  · exact .inl ⟨e, ServerProgram.exec_bind_of_error failed⟩
  · right
    rw [ServerProgram.exec_bind_of_ok ran]
    exact sendStores_insert (by simp [found]) thread fresh

theorem sendToConversation_rejectedOr (fresh : stamp.messageUuid ∉ db.messages.map MessageDocument.id)
    (sender : UserDocument) {conversationId : String}
    (unaddressed : trimmedField payload.recipientUserId = "")
    (named : trimmedField payload.conversationId = conversationId) :
    RejectedOr (sendToConversation sender senderId conversationId payload stamp originSocketId) db
      (SendStores db senderId payload stamp originSocketId) := by
  unfold sendToConversation assertGuestGuestDirectMessagingAllowed
  refine (requireDirectThread_rejectedOr conversationId).bind fun conv stored => ?_
  refine rejectedOr_require.bind fun _ member => ?_
  refine rejectedOr_orFail.bind fun recipientUserId _ => ?_
  refine (findUserById_rejectedOr recipientUserId).bind fun found listed => ?_
  refine rejectedOr_orFail.bind fun recipient present => ?_
  refine rejectedOr_require.bind fun _ _ => ?_
  refine (resolveGuestGuestDataExpiresAt_rejectedOr stamp senderId recipientUserId).bind
    fun guestExp expiry => ?_
  subst expiry
  have joined : db.existingThread senderId payload = some conv := by
    have clean : EcmaText.trim conversationId = conversationId := named ▸ trimmedField_trimmed _
    unfold Database.existingThread
    rw [if_neg (by simp [unaddressed]), named, ← stored.2.2, clean]
  right
  exact sendStores_insert (by simp [← listed, present])
    (.named conv joined stored.1 stored.2.1 (by simpa using member)) fresh

/-- A send is rejected without effect, or a known user's message is stored. -/
theorem sendMessageForUser_rejectedOr (unique : (db.conversations.map ConversationDocument.id).Nodup)
    (sender : UserId) (fresh : stamp.messageUuid ∉ db.messages.map MessageDocument.id) :
    RejectedOr (sendMessageForUser sender.val payload stamp originSocketId) db fun doc after =>
      (∃ u ∈ db.users, u.id = sender.val) ∧
        SendStores db sender.val payload stamp originSocketId doc after := by
  unfold sendMessageForUser
  refine (findUserById_rejectedOr sender.val).bind fun found stored => ?_
  refine rejectedOr_orFail.bind fun user present => ?_
  obtain ⟨held, named⟩ := lookedUpUser_mem (stored ▸ present)
  have known : ∃ u ∈ db.users, u.id = sender.val := ⟨user, held, named.trans sender.trim_val⟩
  have both {p : ServerProgram MessageDocument} {Q : MessageDocument → Database → Prop}
      (ends : RejectedOr p db Q) :
      RejectedOr p db fun doc after => (∃ u ∈ db.users, u.id = sender.val) ∧ Q doc after :=
    ends.imp id fun ⟨doc, after, ran, holds⟩ => ⟨doc, after, ran, known, holds⟩
  dsimp only
  split
  · rename_i addressed
    exact both (sendToRecipient_rejectedOr unique fresh user rfl addressed)
  · rename_i unaddressed
    split
    · exact both (sendToConversation_rejectedOr fresh user (by simpa using unaddressed) rfl)
    · exact rejectedOr_fail

end Send

end MessagingSystem.Source.Server

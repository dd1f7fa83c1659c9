import MessagingSystem.Protocol.MessagingCalls
import MessagingSystem.Source.Server.SendEffects

/-!
# The guest sandbox

However sends and receipt events of guests and registered users interleave, and wherever
they fail, no direct thread joins a guest and a registered user, no message of the one is
stored in a thread of the other, and the broker gets nothing of the one for the other.
-/
namespace MessagingSystem.Guarantees.GuestSandbox
open Foundation Program Source.Server Protocol

variable {α β : Type} {users : List UserDocument} {db : Database}

/-- The contract of a call that keeps guests apart. -/
abbrev Contract (p : ServerProgram α) (post : α → Database → Prop) (db : Database) : Prop :=
  Ensures ServerCommand.exec KeepsApart Apart p post db

/-- A fact that the other calls leave alone. -/
def Lasting (F : Database → Prop) : Prop := ∀ db db', KeepsApart db db' → F db → F db'

/-- The accounts, and guests apart from registered users. -/
def Facts (users : List UserDocument) (db : Database) : Prop := db.users = users ∧ Sandboxed db

theorem facts_lasting : Lasting (Facts users) :=
  fun _ _ moved facts => ⟨moved.users.trans facts.1, moved.sandboxed facts.2⟩

/-- A direct thread in which every account is of the user's kind. -/
structure ThreadFor (users : List UserDocument) (userId : String) (conv : ConversationDocument) (db : Database) :
    Prop where
  facts : Facts users db
  stored : Stored conv db
  direct : conv.isGroup = false
  kinds : ∀ p ∈ conv.participantIds, SameKind users p userId

theorem threadFor_lasting {userId : String} {conv : ConversationDocument} : Lasting (ThreadFor users userId conv) :=
  fun _ _ moved thread => ⟨facts_lasting _ _ moved thread.facts, moved.threads conv thread.stored, thread.direct,
    thread.kinds⟩

/-- A stored thread of the user is one of accounts of the user's kind. -/
theorem ThreadFor.of_member {userId : String} {conv : ConversationDocument} (facts : Facts users db)
    (member : conv ∈ db.conversations) (direct : conv.isGroup = false) (participates : userId ∈ conv.participantIds) :
    ThreadFor users userId conv db where
  facts := facts
  stored := ⟨conv, member, rfl, rfl, rfl⟩
  direct := direct
  kinds p listed := by
    have same := facts.2.separated.threads conv member direct p listed userId participates
    rw [facts.1] at same
    exact same

section Rules

/-- A call that neither adds a thread or a message nor publishes keeps what lasts. -/
theorem contract_of_harmless {F : Database → Prop} (lasting : Lasting F) {p : ServerProgram α}
    (harmless : Forall Harmless p) (holds : F db) : Contract p (fun _ => F) db :=
  Ensures.of_invariant harmless (fun _ _ moved => lasting _ _ moved)
    (fun _ _ free fact => ⟨free.apart, lasting _ _ (free.apart) fact⟩) holds

/-- A command that only reads. -/
theorem contract_read {F : Database → Prop} (lasting : Lasting F) {c : ServerCommand α}
    (reads : ∀ s, (c.exec s).2 = s) {post : α → Database → Prop}
    (answers : ∀ s, F s → post (c.exec s).1 s) (holds : F db) : Contract (perform c) post db := by
  apply Ensures.perform
  intro s moved
  have apart : Apart c s := by
    unfold Apart
    rw [reads s]
    exact .refl s
  rw [reads s]
  exact ⟨apart, answers s (lasting _ _ moved holds)⟩

end Rules

section Lookups

theorem findUserById_harmless (id : String) : Forall Harmless (findUserById id) := by
  unfold findUserById
  dsimp only
  split
  · exact forall_pure _
  · exact forall_perform.mpr trivial

theorem resolveGuestGuestDataExpiresAt_harmless (stamp : SendStamp) (senderId recipientId : String) :
    Forall Harmless (resolveGuestGuestDataExpiresAt stamp senderId recipientId) := by
  unfold resolveGuestGuestDataExpiresAt
  refine .bind (forall_perform.mpr trivial) fun cfg => forall_ite ?_ (forall_pure _)
  refine .bind (findUserById_harmless senderId) fun a => ?_
  exact .bind (findUserById_harmless recipientId) fun b => forall_ite (forall_pure _) (forall_pure _)

/-- An account that is found is one of the accounts. -/
theorem findUserById_contract {F : Database → Prop} (lasting : Lasting F) (same : ∀ s, F s → s.users = users)
    (id : String) (holds : F db) :
    Contract (findUserById id) (fun found s => F s ∧ ∀ u, found = some u →
      users.find? (fun u => u.id = EcmaText.trim id) = some u) db := by
  unfold findUserById
  dsimp only
  split
  · exact Ensures.pure ⟨holds, by simp⟩
  · apply contract_read lasting (fun _ => rfl) _ holds
    intro s fact
    refine ⟨fact, fun u found => ?_⟩
    rw [← same s fact]
    exact found

/-- The direct thread that is found is stored. -/
theorem requireDirectThread_contract (conversationId : String) (facts : Facts users db) :
    Contract (requireDirectThread conversationId)
      (fun conv s => Facts users s ∧ conv ∈ s.conversations ∧ conv.isGroup = false) db := by
  unfold requireDirectThread lookupConversationById
  have found : Contract (if EcmaText.trim conversationId = "" then pure none
      else do
        let doc ← perform (.findConversation (EcmaText.trim conversationId))
        pure (doc.map fun c => if c.isGroup then ConversationLookup.group else .direct c))
      (fun looked s => Facts users s ∧ ∀ conv, looked = some (.direct conv) →
        conv ∈ s.conversations ∧ conv.isGroup = false) db := by
    split
    · exact Ensures.pure ⟨facts, by simp⟩
    · refine Ensures.bind (Q := fun doc s => Facts users s ∧ ∀ conv, doc = some conv → conv ∈ s.conversations)
        (contract_read facts_lasting (fun _ => rfl) ?_ facts) ?_
      · intro s fact
        exact ⟨fact, fun conv read => List.mem_of_find?_eq_some read⟩
      · intro doc s read
        refine Ensures.pure ⟨read.1, fun conv same => ?_⟩
        obtain ⟨c, rfl, shown⟩ := Option.map_eq_some_iff.mp same
        split at shown
        · cases shown
        · rename_i direct
          cases shown
          exact ⟨read.2 conv rfl, Bool.eq_false_iff.mpr direct⟩
  refine Ensures.bind found fun looked s read => ?_
  cases looked with
  | none => exact Ensures.fail _
  | some lookup =>
    cases lookup with
    | group => exact Ensures.fail _
    | direct conv => exact Ensures.pure ⟨read.1, read.2 conv rfl⟩

end Lookups

section Threads

variable {a b : String}

/-- What makes the thread of two users one of their kind. -/
structure PairOfKind (users : List UserDocument) (a b : String) : Prop where
  plain : '|' ∉ a.toList ∧ '|' ∉ b.toList
  same : SameKind users a b

/-- A thread that is found for the pair, with an id by which it is found again. -/
theorem findDirectConversationIdBetween_contract (pair : PairOfKind users a b) (facts : Facts users db) :
    Contract (findDirectConversationIdBetween a b) (fun found s => Facts users s ∧
      ∀ id, found = some id → ∃ c, c.id = id ∧ ThreadFor users a c s) db := by
  unfold findDirectConversationIdBetween
  split
  · exact Ensures.pure ⟨facts, by simp⟩
  · refine Ensures.bind (Q := fun doc s => Facts users s ∧ ∀ c, doc = some c → ThreadFor users a c s)
      (contract_read facts_lasting (fun _ => rfl) ?_ facts) ?_
    · intro s fact
      refine ⟨fact, fun c found => ?_⟩
      have member := List.mem_of_find?_eq_some found
      have matched := List.find?_some found
      simp only [Bool.and_eq_true, decide_eq_true_eq, Bool.not_eq_true'] at matched
      have keyed := fact.2.plain.keyed c member matched.2 a b pair.plain.1 pair.plain.2 matched.1
      rw [fact.1] at keyed
      exact ⟨fact, ⟨c, member, rfl, rfl, rfl⟩, matched.2, keyed⟩
    · intro doc s read
      refine Ensures.pure ⟨read.1, fun id same => ?_⟩
      obtain ⟨c, rfl, rfl⟩ := Option.map_eq_some_iff.mp same
      exact ⟨c, rfl, read.2 c rfl⟩

theorem existingDirectConversation_contract (pair : PairOfKind users a b) (facts : Facts users db) :
    Contract (existingDirectConversation a b) (fun found s => Facts users s ∧
      ∀ c, found = some c → ThreadFor users a c s) db := by
  unfold existingDirectConversation
  refine Ensures.bind (findDirectConversationIdBetween_contract pair facts) fun id s found => ?_
  cases id with
  | none => exact Ensures.pure ⟨found.1, by simp⟩
  | some id =>
    obtain ⟨c, rfl, thread⟩ := found.2 id rfl
    refine contract_read threadFor_lasting (fun _ => rfl) (fun t later => ⟨later.facts, fun d read => ?_⟩) thread
    obtain ⟨c', member, sameId, sameKind, sameUsers⟩ := later.stored
    have byId : (t.conversations.find? fun x => x.id = c.id) = some c' :=
      (Collection.find_key later.facts.2.plain.ids).mpr ⟨member, sameId⟩
    obtain rfl : c' = d := Option.some.inj (byId.symm.trans read)
    exact ⟨later.facts, ⟨c', member, rfl, rfl, rfl⟩, sameKind.trans later.direct, by
      rw [sameUsers]
      exact later.kinds⟩

/-- The thread that a send resolves is one of the sender's kind. -/
theorem findOrCreateDirectConversation_contract (pair : PairOfKind users a b) (uuid : String) (now : Nat)
    (expiry : Option Nat) (facts : Facts users db) :
    Contract (findOrCreateDirectConversation a b uuid now expiry) (ThreadFor users a) db := by
  unfold findOrCreateDirectConversation
  refine Ensures.bind (existingDirectConversation_contract pair facts) fun found s looked => ?_
  cases found with
  | some existing => exact Ensures.pure (looked.2 existing rfl)
  | none =>
    have thread : NewThread users a b
        ⟨uuid, some (directPairKey a b), [(EcmaText.sortPair a b).1, (EcmaText.sortPair a b).2], false, now, now,
          expiry⟩ := ⟨rfl, rfl, pair.plain, pair.same⟩
    refine Ensures.bind (Q := fun inserted t => Facts users t ∧ (inserted = true → ThreadFor users a
      ⟨uuid, some (directPairKey a b), [(EcmaText.sortPair a b).1, (EcmaText.sortPair a b).2], false, now, now,
          expiry⟩ t)) (Ensures.perform fun t moved => ?_) ?_
    · have fact := facts_lasting _ _ moved looked.1
      have apart := apart_insertConversation (by rw [fact.1]; exact thread)
      have kept := facts_lasting _ _ apart fact
      refine ⟨apart, kept, fun inserted => ⟨kept, ?_, rfl, fun p listed => (thread.kinds p listed).1⟩⟩
      simp only [ServerCommand.exec] at inserted ⊢
      split at inserted
      · cases inserted
      · rename_i free
        rw [if_neg free]
        exact ⟨_, List.mem_append_right _ (List.mem_singleton_self _), rfl, rfl, rfl⟩
    · intro inserted t stored
      dsimp only
      cases inserted with
      | true => exact Ensures.pure (stored.2 rfl)
      | false =>
        rw [if_neg (by simp)]
        refine Ensures.bind (existingDirectConversation_contract pair stored.1) fun retry u again => ?_
        exact Ensures.orFail again.2

end Threads

section Publications

theorem message_key_ne_receipt_key (a b : String) : "message.user." ++ a ≠ "message.receipt." ++ b := by
  intro same
  have chars := congrArg String.toList same
  simp [String.toList_append] at chars

/-- A message for its recipient is permitted between accounts of one kind. -/
theorem permitted_message {recipient sender : String} {body : Json} (author : authorOf body = some sender)
    (same : SameKind users recipient sender) : Permitted users ("message.user." ++ recipient, body) := by
  rintro reader other (key | key) named
  · obtain rfl := (String.append_right_inj "message.user.").mp key
    obtain rfl := Option.some.inj (author.symm.trans named)
    exact same
  · exact absurd key (message_key_ne_receipt_key _ _)

theorem permitted_receipt {participant actor : String} {body : Json} (author : authorOf body = some actor)
    (same : SameKind users participant actor) : Permitted users ("message.receipt." ++ participant, body) := by
  rintro reader other (key | key) named
  · exact absurd key.symm (message_key_ne_receipt_key _ _)
  · obtain rfl := (String.append_right_inj "message.receipt.").mp key
    obtain rfl := Option.some.inj (author.symm.trans named)
    exact same

theorem member_optional_of_ne {name other : String} (different : other ≠ name) (field : Nullable String) :
    Json.member (optionalMember other field) name = none := by
  cases field <;> simp [optionalMember, different]

theorem member_keys_of_ne {name : String} (different : "encryptedMessageKeys" ≠ name) (keys : Option (Record String)) :
    Json.member (keyMembers keys) name = none := by
  cases keys <;> simp [keyMembers, different]

theorem senderId_member (m : MessageDocument) : Json.member (messageMembers m) "senderId" = some (.string m.senderId) := by
  unfold messageMembers
  simp

/-- A message names its sender, and nothing else that a body could. -/
theorem authorOf_message (m : MessageDocument) : authorOf (messageDocumentToApi m) = some m.senderId := by
  have absent : ∀ name, name ∉ ["id", "conversationId", "senderId", "body", "mediaKey", "createdAt",
      "encryptedMessageKeys", "iv", "algorithm"] → Json.member (messageMembers m) name = none := by
    intro name other
    simp only [List.mem_cons, List.not_mem_nil, or_false, not_or] at other
    unfold messageMembers
    simp only [Json.member_append, member_optional_of_ne (Ne.symm other.2.2.2.2.2.2.2.1),
      member_optional_of_ne (Ne.symm other.2.2.2.2.2.2.2.2), member_keys_of_ne (Ne.symm other.2.2.2.2.2.2.1),
      Option.or_none]
    simp [Ne.symm other.1, Ne.symm other.2.1, Ne.symm other.2.2.1, Ne.symm other.2.2.2.1, Ne.symm other.2.2.2.2.1,
      Ne.symm other.2.2.2.2.2.1]
  unfold authorOf messageDocumentToApi
  simp only [Json.asObject, Option.bind_some, absent "data" (by decide), absent "message" (by decide),
    senderId_member, Json.asString]

theorem authorOf_echo (m : MessageDocument) (originSocketId : Option String) :
    authorOf (senderEcho (messageDocumentToApi m) originSocketId) = some m.senderId := by
  have sender := senderId_member m
  cases originSocketId with
  | none => simp [authorOf, senderEcho, messageDocumentToApi, Json.asObject, Json.asString, sender]
  | some socketId => simp [authorOf, senderEcho, messageDocumentToApi, Json.asObject, Json.asString, sender]

theorem authorOf_receipt (r : ReceiptRequest) (socketEvent : String) (at' : Nat) (pid : String) :
    authorOf (receiptBody r socketEvent (toFanoutPayload r at') pid) = some r.actorUserId := by
  unfold authorOf receiptBody toFanoutPayload
  simp [Json.asObject, Json.asString]

end Publications

section Sends

/-- A broker message that is permitted keeps guests apart. -/
theorem publish_contract {F : Database → Prop} (lasting : Lasting F) (same : ∀ s, F s → s.users = users)
    {entry : String × Json} (permitted : Permitted users entry) (holds : F db) :
    Contract (perform (.publish entry.1 entry.2)) (fun _ => F) db := by
  apply Ensures.perform
  intro s moved
  have fact := lasting _ _ moved holds
  have apart : Apart (.publish entry.1 entry.2) s := apart_publish (by rw [same s fact]; exact permitted)
  exact ⟨apart, lasting _ _ apart fact⟩

theorem insertDirectMessageAndPublish_contract {conv : ConversationDocument} {recipient : String} {doc : MessageDocument}
    (thread : ThreadFor users doc.senderId conv db) (named : conv.id = doc.conversationId)
    (same : SameKind users recipient doc.senderId) (originSocketId : Option String) :
    Contract (insertDirectMessageAndPublish recipient doc originSocketId) (fun _ _ => True) db := by
  unfold insertDirectMessageAndPublish insertMessage
  have users_eq : ∀ s, Facts users s → s.users = users := fun s fact => fact.1
  have stores : Contract (do
      let inserted ← perform (.insertMessage doc)
      require inserted internalServerError
      perform (.touchConversation doc.conversationId doc.createdAt)) (fun _ => Facts users) db := by
    refine Ensures.bind (Q := fun _ => Facts users) (Ensures.perform fun s moved => ?_) ?_
    · have here := threadFor_lasting _ _ moved thread
      have apart : Apart (.insertMessage doc) s :=
        apart_insertMessage here.stored named here.direct (by rw [here.facts.1]; exact here.kinds)
      exact ⟨apart, facts_lasting _ _ apart here.facts⟩
    · intro inserted s fact
      exact contract_of_harmless facts_lasting (.bind (forall_require _ _) fun _ => forall_perform.mpr trivial) fact
  refine Ensures.bind stores fun _ s fact => ?_
  refine Ensures.bind (publish_contract facts_lasting users_eq
    (permitted_message (authorOf_message doc) same) fact) fun _ s fact => ?_
  refine Ensures.bind (publish_contract facts_lasting users_eq
    (permitted_message (authorOf_echo doc originSocketId) (.refl doc.senderId)) fact) fun _ s fact => ?_
  exact Ensures.pure trivial

theorem plain_of_found {id : String} {u : UserDocument} (facts : Facts users db)
    (found : users.find? (fun u => u.id = id) = some u) : '|' ∉ id.toList := by
  have named : u.id = id := by simpa using List.find?_some found
  have member := List.mem_of_find?_eq_some found
  rw [← facts.1] at member
  rw [← named]
  exact facts.2.plain.users u member

variable {senderId : String} {sender : UserDocument}

theorem sendToRecipient_contract (known : users.find? (fun u => u.id = senderId) = some sender) {recipient : String}
    (trimmed : EcmaText.Trimmed recipient) (payload : SendMessageRequest) (stamp : SendStamp)
    (originSocketId : Option String) (facts : Facts users db) :
    Contract (sendToRecipient sender senderId recipient payload stamp originSocketId) (fun _ _ => True) db := by
  unfold sendToRecipient assertGuestGuestDirectMessagingAllowed
  refine Ensures.bind (Q := fun _ => Facts users) (Ensures.require fun _ => facts) fun _ s fact => ?_
  refine Ensures.bind (findUserById_contract facts_lasting (fun _ fact => fact.1) recipient fact) fun found s looked => ?_
  refine Ensures.bind (Q := fun peer s => Facts users s ∧ found = some peer)
    (Ensures.orFail fun peer present => ⟨looked.1, present⟩) fun peer s present => ?_
  have peerFound := looked.2 peer present.2
  rw [trimmed] at peerFound
  refine Ensures.bind (Q := fun _ s => Facts users s ∧ sender.isGuest = peer.isGuest)
    (Ensures.require fun same => ⟨present.1, of_decide_eq_true same⟩) fun _ s checked => ?_
  have same : SameKind users senderId recipient := .of_found known peerFound checked.2
  refine Ensures.bind (contract_of_harmless facts_lasting
    (resolveGuestGuestDataExpiresAt_harmless stamp senderId recipient) checked.1) fun expiry s fact => ?_
  have pair : PairOfKind users senderId recipient :=
    ⟨⟨plain_of_found fact known, plain_of_found fact peerFound⟩, same⟩
  refine Ensures.bind (findOrCreateDirectConversation_contract pair stamp.conversationUuid stamp.now expiry fact)
    fun conv s thread => ?_
  exact insertDirectMessageAndPublish_contract thread rfl
    same.symm originSocketId

/-- In a thread that is stored the check of the two accounts is met already. -/
theorem sendToConversation_contract (conversationId : String) (payload : SendMessageRequest)
    (stamp : SendStamp) (originSocketId : Option String) (facts : Facts users db) :
    Contract (sendToConversation sender senderId conversationId payload stamp originSocketId) (fun _ _ => True) db := by
  unfold sendToConversation assertGuestGuestDirectMessagingAllowed
  refine Ensures.bind (requireDirectThread_contract conversationId facts) fun conv s read => ?_
  refine Ensures.bind (Q := fun _ => ThreadFor users senderId conv) (Ensures.require fun member =>
    ThreadFor.of_member read.1 read.2.1 read.2.2 (List.contains_iff_mem.mp member)) fun _ s thread => ?_
  refine Ensures.bind (Q := fun recipient s => ThreadFor users senderId conv s ∧ recipient ∈ conv.participantIds)
    (Ensures.orFail fun recipient other => ⟨thread, List.mem_of_find?_eq_some other⟩) fun recipient s other => ?_
  refine Ensures.bind (contract_of_harmless threadFor_lasting (findUserById_harmless recipient) other.1)
    fun found s thread => ?_
  refine Ensures.bind (Q := fun _ => ThreadFor users senderId conv) (Ensures.orFail fun _ _ => thread)
    fun peer s thread => ?_
  refine Ensures.bind (Q := fun _ => ThreadFor users senderId conv) (Ensures.require fun _ => thread)
    fun _ s thread => ?_
  refine Ensures.bind (contract_of_harmless threadFor_lasting
    (resolveGuestGuestDataExpiresAt_harmless stamp senderId recipient) thread) fun expiry s thread => ?_
  exact insertDirectMessageAndPublish_contract thread rfl
    (thread.kinds recipient other.2) originSocketId

theorem sendMessageForUser_contract (user : UserId) (payload : SendMessageRequest) (stamp : SendStamp)
    (originSocketId : Option String) (facts : Facts users db) :
    Contract (sendMessageForUser user.val payload stamp originSocketId) (fun _ _ => True) db := by
  unfold sendMessageForUser
  refine Ensures.bind (findUserById_contract facts_lasting (fun _ fact => fact.1) user.val facts) fun found s looked => ?_
  refine Ensures.bind (Q := fun sender s => Facts users s ∧ users.find? (fun u => u.id = user.val) = some sender)
    (Ensures.orFail fun sender present => ⟨looked.1, ?_⟩) fun sender s known => ?_
  · have inUsers := looked.2 sender present
    rw [user.trim_val] at inUsers
    exact inUsers
  · dsimp only
    split
    · exact sendToRecipient_contract known.2 (trimmedField_trimmed _) payload stamp originSocketId known.1
    · split
      · exact sendToConversation_contract _ payload stamp originSocketId known.1
      · exact Ensures.fail _

end Sends

section Receipts

/-- The thread of a receipt event is one of the actor's kind. -/
theorem receiptConversation_contract (r : ReceiptRequest) (facts : Facts users db) :
    Contract (receiptConversation r) (ThreadFor users r.actorUserId) db := by
  unfold receiptConversation requireDirectConversation assertParticipant findMessageById assertRecipientNotSender
  refine Ensures.bind (requireDirectThread_contract r.conversationId facts) fun conv s read => ?_
  refine Ensures.bind (Q := fun _ => ThreadFor users r.actorUserId conv) (Ensures.require fun member =>
    ThreadFor.of_member read.1 read.2.1 read.2.2 (List.contains_iff_mem.mp member)) fun _ s thread => ?_
  refine Ensures.bind (contract_of_harmless threadFor_lasting (forall_perform.mpr trivial) thread)
    fun found s thread => ?_
  refine Ensures.bind (Q := fun _ => ThreadFor users r.actorUserId conv) (Ensures.orFail fun _ _ => thread)
    fun m s thread => ?_
  refine Ensures.bind (Q := fun _ => ThreadFor users r.actorUserId conv) (Ensures.require fun _ => thread)
    fun _ s thread => ?_
  refine Ensures.bind (Q := fun _ => ThreadFor users r.actorUserId conv) (Ensures.require fun _ => thread)
    fun _ s thread => ?_
  exact Ensures.pure thread

theorem setReceiptTime_harmless (kind : ReceiptKind) (r : ReceiptRequest) (at' : Nat) :
    Forall Harmless (setReceiptTime kind r at') := by
  unfold setReceiptTime
  refine .bind (forall_perform.mpr trivial) fun found => .bind (forall_orFail _ _) fun m =>
    .bind (forall_require _ _) fun _ => ?_
  split
  · exact forall_pure _
  · exact .bind (forall_perform.mpr trivial) fun _ => forall_pure _

theorem upsertConversationRead_harmless (userId conversationId messageId : String) (at' now : Nat) :
    Forall Harmless (upsertConversationRead userId conversationId messageId at' now) := by
  unfold upsertConversationRead
  exact .bind (forall_perform.mpr trivial) fun _ => .bind (forall_perform.mpr trivial) fun _ =>
    .bind (forall_require _ _) fun _ => forall_pure _

/-- A receipt is sent to accounts of the actor's kind. -/
theorem publishIfChanged_contract (changed : Bool) (r : ReceiptRequest) (socketEvent : String) (at' : Nat)
    {conv : ConversationDocument} (thread : ThreadFor users r.actorUserId conv db) :
    Contract (publishIfChanged changed r socketEvent at' conv) (fun _ _ => True) db := by
  have publishes : ∀ (pids : List String) (s : Database), Facts users s →
      (∀ pid ∈ pids, SameKind users pid r.actorUserId) →
      Contract (publishReceiptToParticipants r socketEvent (toFanoutPayload r at') pids) (fun _ _ => True) s := by
    intro pids
    induction pids with
    | nil =>
      intro s fact kinds
      exact Ensures.pure trivial
    | cons pid rest ih =>
      intro s fact kinds
      refine Ensures.bind (publish_contract facts_lasting (fun _ fact => fact.1)
        (permitted_receipt (authorOf_receipt r socketEvent at' pid) (kinds pid List.mem_cons_self)) fact)
          fun _ t fact => ?_
      exact ih t fact fun other listed => kinds other (List.mem_cons_of_mem _ listed)
  unfold publishIfChanged
  split
  · exact publishes conv.participantIds db thread.facts thread.kinds
  · exact Ensures.pure trivial

/-- Every call keeps guests apart. -/
theorem program_contract (call : SocketCall) (facts : Facts users db) :
    Contract call.program (fun _ _ => True) db := by
  cases call with
  | messageDelivered r at' =>
    show Contract (processMessageDelivered r at') _ db
    unfold processMessageDelivered setReceiptDelivered
    refine Ensures.bind (receiptConversation_contract r facts) fun conv s thread => ?_
    refine Ensures.bind (contract_of_harmless threadFor_lasting (setReceiptTime_harmless _ r at') thread)
      fun changed s thread => ?_
    exact publishIfChanged_contract changed r _ at' thread
  | messageRead r at' now =>
    show Contract (processMessageRead r at' now) _ db
    unfold processMessageRead setReceiptSeen
    refine Ensures.bind (receiptConversation_contract r facts) fun conv s thread => ?_
    refine Ensures.bind (contract_of_harmless threadFor_lasting (setReceiptTime_harmless _ r at') thread)
      fun seen s thread => ?_
    refine Ensures.bind (contract_of_harmless threadFor_lasting
      (upsertConversationRead_harmless _ _ _ at' now) thread) fun cursor s thread => ?_
    exact publishIfChanged_contract _ r _ at' thread
  | conversationRead r at' now =>
    show Contract (processConversationRead r at' now) _ db
    unfold processConversationRead
    refine Ensures.bind (receiptConversation_contract r facts) fun conv s thread => ?_
    refine Ensures.bind (contract_of_harmless threadFor_lasting
      (upsertConversationRead_harmless _ _ _ at' now) thread) fun cursor s thread => ?_
    exact publishIfChanged_contract _ r _ at' thread
  | messageSend user payload stamp originSocketId =>
    show Contract (do
      let _ ← sendMessageForUser user.val payload stamp originSocketId
      pure ()) _ db
    exact Ensures.bind (sendMessageForUser_contract user payload stamp originSocketId facts)
      fun _ _ _ => Ensures.pure trivial

end Receipts

theorem messagingCalls_compatible :
    messagingCalls.Compatible Sandboxed KeepsApart Apart fun _ _ _ => True where
  refl := .refl
  trans _ _ _ := .trans
  keeps _ _ moved := moved.sandboxed
  stable _ _ _ _ _ := id
  allowed _ _ apart := apart
  begins call _ sandboxed := program_contract call ⟨rfl, sandboxed⟩

/-- After any interleaving of sends and receipt events, with any of their commands failing, guests and
registered users are still apart: in the threads, in the stored messages and in what was published. -/
theorem guests_sandboxed {start final : MessagingPool}
    {history : List (Transition MessagingPool (PoolEvent SocketCall AppError))}
    (initial : messagingMachine.init start) (run : messagingMachine.Run start history final) :
    Separated final.store := by
  have contracts : messagingCalls.Contracts Sandboxed KeepsApart Apart (fun _ _ _ => True) final :=
    run.invariant (fun _ _ _ contracts taken => contracts.preserved messagingCalls_compatible taken)
      (.initial initial.2 initial.1)
  exact contracts.1.separated

section Runs

theorem ada_trimmed : EcmaText.Trimmed "ada" := by decide

theorem ada_nonempty : "ada" ≠ "" := by decide

/-- Two guests and a registered user. -/
def lobby : Database where
  users := [⟨"ada", true, none⟩, ⟨"ben", true, none⟩, ⟨"cleo", false, some "Cleo"⟩]

theorem lobby_init : messagingMachine.init ⟨lobby, []⟩ := by
  refine ⟨rfl, ⟨?_, ?_, ?_⟩, ?_, ?_, ?_⟩
  · intro c member
    cases member
  · intro m member
    cases member
  · intro entry member
    cases member
  · exact List.nodup_nil
  · intro u member
    simp only [lobby, List.mem_cons, List.not_mem_nil, or_false] at member
    rcases member with rfl | rfl | rfl <;> decide
  · intro c member
    cases member

def sendTo (recipient : String) (message conversation : String) : SocketCall :=
  .messageSend ⟨"ada", ada_trimmed, ada_nonempty⟩ { recipientUserId := .value recipient, body := .value "hi" }
    ⟨conversation, message, 1000, 86400⟩ none

/-- A guest writes to a guest and to a registered user, the commands of the two sends in turn. -/
def bothSends : List (PoolEvent SocketCall AppError) :=
  [.takeUp (sendTo "ben" "m1" "c1"), .takeUp (sendTo "cleo" "m2" "c2"), .advance 0, .advance 1, .advance 0,
    .advance 1] ++ List.replicate 9 (.advance 0)

/-- The message to the guest is stored and sent, and the one to the registered user is not. -/
theorem guests_sandboxed_lobby : ∃ final : MessagingPool, final.store.messages.map MessageDocument.id = ["m1"] ∧
    final.store.published.map Prod.fst = ["message.user.ben", "message.user.ada"] ∧ Separated final.store := by
  have checked : (Machine.trace messagingCalls.next ⟨lobby, []⟩ bothSends).any (fun executed =>
      executed.2.store.messages.map MessageDocument.id = ["m1"] ∧
        executed.2.store.published.map Prod.fst = ["message.user.ben", "message.user.ada"]) = true := by
    decide +kernel
  obtain ⟨⟨history, final⟩, executed, holds⟩ := (Option.any_eq_true _ _).mp checked
  obtain ⟨stored, sent⟩ := of_decide_eq_true holds
  have run : messagingMachine.Run ⟨lobby, []⟩ history final :=
    Machine.trace_run messagingCalls.next (fun s event t stepped => messagingCalls.next_step s event t stepped) executed
  exact ⟨final, stored, sent, guests_sandboxed lobby_init run⟩

end Runs

end MessagingSystem.Guarantees.GuestSandbox

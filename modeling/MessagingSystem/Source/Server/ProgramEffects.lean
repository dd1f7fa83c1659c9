import MessagingSystem.Source.Server.SendMessage
import MessagingSystem.Source.Server.SyncMessageKeys

/-!
# Effects of the service functions on the store

Every command keeps the unique indexes. Only two commands change a stored
message; the functions that use neither keep every stored message as it is.
The batch key upload has its own closed form.
-/
namespace MessagingSystem.Source.Server
open Foundation

/-- The unique indexes of `messages` and `user_device_public_keys`. -/
structure Database.WellFormed (db : Database) : Prop where
  messageIds : (db.messages.map MessageDocument.id).Nodup
  deviceKeys : (db.userDevicePublicKeys.map fun d => (d.userId, d.deviceId)).Nodup

/-- The user ids of a thread are stored as they are looked up. -/
def ConversationDocument.TrimmedParticipants (doc : ConversationDocument) : Prop :=
  ∀ id ∈ doc.participantIds, EcmaText.Trimmed id

def Database.TrimmedParticipants (db : Database) : Prop :=
  ∀ doc ∈ db.conversations, doc.TrimmedParticipants

/-- From `db` on no message has been stored, changed or published. -/
structure Database.Unsent (db db' : Database) : Prop where
  messages : db'.messages = db.messages
  published : db'.published = db.published

theorem Database.Unsent.refl (db : Database) : db.Unsent db := ⟨rfl, rfl⟩

theorem Database.Unsent.trans {a b c : Database} (first : a.Unsent b) (second : b.Unsent c) :
    a.Unsent c :=
  ⟨second.messages.trans first.messages, second.published.trans first.published⟩

namespace ServerCommand

/-- Commands that change no stored message and no read cursor; a thread they
create is one of trimmed user ids. -/
def AddsOnly {β : Type} : ServerCommand β → Prop
  | .setMessageKey .. => False
  | .setReceipt .. => False
  | .upsertConversationRead .. => False
  | .insertConversation doc => doc.TrimmedParticipants
  | _ => True

/-- Those of them that read, or create a thread. -/
def Lookup {β : Type} : ServerCommand β → Prop
  | .getEffectiveRuntimeConfig => True
  | .findUser .. => True
  | .findConversation .. => True
  | .findDirectConversation .. => True
  | .participantConversationIds .. => True
  | .findMessage .. => True
  | .insertConversation doc => doc.TrimmedParticipants
  | _ => False

theorem Lookup.addsOnly {β : Type} {c : ServerCommand β} (lookup : c.Lookup) : c.AddsOnly := by
  cases c <;> first | exact lookup | exact lookup.elim

theorem exec_wellFormed {β : Type} (c : ServerCommand β) (db : Database) (wf : db.WellFormed) :
    (c.exec db).2.WellFormed := by
  cases c with
  | insertConversation doc =>
    simp only [exec]
    split
    · exact wf
    · exact ⟨wf.messageIds, wf.deviceKeys⟩
  | insertMessage doc =>
    simp only [exec]
    split
    · rename_i messages inserted
      exact ⟨(Collection.insertUnique_nodup wf.messageIds inserted).2, wf.deviceKeys⟩
    · exact wf
  | setMessageKey messageId conversationIds source target key =>
    refine ⟨?_, wf.deviceKeys⟩
    simp only [exec, Database.setMessages]
    rw [Collection.map_key_updateFirst _ _ (MessageDocument.setKeyFor target key) fun _ => rfl]
    exact wf.messageIds
  | setReceipt kind messageId userId at' =>
    refine ⟨?_, wf.deviceKeys⟩
    simp only [exec, Database.setMessages]
    rw [Collection.map_key_updateFirst _ _ (MessageDocument.setReceipt kind userId at')
      fun _ => rfl]
    exact wf.messageIds
  | insertDevice doc =>
    simp only [exec]
    split
    · rename_i devices inserted
      exact ⟨wf.messageIds, (Collection.insertUnique_nodup wf.deviceKeys inserted).2⟩
    · exact wf
  | updateDevice userId deviceId patch =>
    refine ⟨wf.messageIds, ?_⟩
    simp only [exec, Database.setDevices]
    rw [Collection.map_key_updateFirst _ _ patch.apply fun _ => rfl]
    exact wf.deviceKeys
  | deleteDevice userId deviceId =>
    exact ⟨wf.messageIds, wf.deviceKeys.sublist (List.eraseP_sublist.map _)⟩
  | _ => exact ⟨wf.messageIds, wf.deviceKeys⟩

theorem exec_keeps_message {β : Type} (c : ServerCommand β) (db : Database)
    (adds : c.AddsOnly) {m : MessageDocument} (member : m ∈ db.messages) :
    m ∈ (c.exec db).2.messages := by
  cases c with
  | insertConversation doc =>
    simp only [exec]
    split <;> exact member
  | insertMessage doc =>
    simp only [exec]
    split
    · rename_i messages inserted
      unfold Collection.insertUnique at inserted
      split at inserted
      · cases inserted
      · cases inserted
        exact List.mem_append_left _ member
    · exact member
  | setMessageKey => cases adds
  | setReceipt => cases adds
  | insertDevice doc =>
    simp only [exec]
    split <;> exact member
  | _ => exact member

theorem exec_keeps_trimmed {β : Type} (c : ServerCommand β) (db : Database) (adds : c.AddsOnly)
    (trimmed : db.TrimmedParticipants) : (c.exec db).2.TrimmedParticipants := by
  cases c with
  | insertConversation doc =>
    simp only [exec]
    split
    · exact trimmed
    · intro other member
      rcases List.mem_append.mp member with old | new
      · exact trimmed other old
      · exact List.mem_singleton.mp new ▸ adds
  | touchConversation id now =>
    intro other member
    rcases Collection.mem_updateFirst member with old | ⟨origin, held, rfl⟩
    · exact trimmed other old
    · exact trimmed origin held
  | insertMessage doc =>
    simp only [exec]
    split <;> exact trimmed
  | insertDevice doc =>
    simp only [exec]
    split <;> exact trimmed
  | _ => exact trimmed

/-- A lookup stores no message and publishes none. -/
theorem exec_unsent {β : Type} (c : ServerCommand β) (db : Database) (lookup : c.Lookup) :
    db.Unsent (c.exec db).2 := by
  cases c with
  | insertConversation doc =>
    simp only [exec]
    split <;> exact ⟨rfl, rfl⟩
  | insertMessage => cases lookup
  | setMessageKey => cases lookup
  | setReceipt => cases lookup
  | insertDevice => cases lookup
  | publish => cases lookup
  | _ => exact ⟨rfl, rfl⟩

end ServerCommand

/-- Any function keeps the unique indexes. -/
theorem ServerProgram.exec_wellFormed {α : Type} (p : ServerProgram α) {db : Database}
    (wf : db.WellFormed) : (ServerProgram.exec p db).2.WellFormed := by
  exact (Program.forall_true p).run_invariant (fun c s _ inv => c.exec_wellFormed s inv) wf

/-- A function without updates keeps every stored message. -/
theorem ServerProgram.exec_keeps_message {α : Type} {p : ServerProgram α}
    (adds : Program.Forall ServerCommand.AddsOnly p) {db : Database} {m : MessageDocument}
    (member : m ∈ db.messages) : m ∈ (ServerProgram.exec p db).2.messages :=
  adds.run_invariant (I := fun db => m ∈ db.messages)
    (fun c s adds inv => c.exec_keeps_message s adds inv) member

/-- A function of trimmed threads keeps the threads trimmed. -/
theorem ServerProgram.exec_keeps_trimmed {α : Type} {p : ServerProgram α}
    (adds : Program.Forall ServerCommand.AddsOnly p) {db : Database}
    (trimmed : db.TrimmedParticipants) : (ServerProgram.exec p db).2.TrimmedParticipants :=
  adds.run_invariant (I := Database.TrimmedParticipants)
    (fun c s adds inv => c.exec_keeps_trimmed s adds inv) trimmed

theorem ServerProgram.exec_unsent {α : Type} {p : ServerProgram α}
    (lookup : Program.Forall ServerCommand.Lookup p) (db : Database) :
    db.Unsent (ServerProgram.exec p db).2 :=
  lookup.run_invariant (I := db.Unsent)
    (fun c s lookup inv => inv.trans (c.exec_unsent s lookup)) (.refl db)

section AddsOnly

open Program

theorem perform_addsOnly {α : Type} {c : ServerCommand α} (adds : c.AddsOnly) :
    Forall ServerCommand.AddsOnly (perform c : ServerProgram α) := forall_perform.mpr adds

theorem touchDevice_addsOnly (userId deviceId : String) (existing : UserPublicKeyDocument)
    (label : Option (Option String)) (now : Nat) :
    Forall ServerCommand.AddsOnly (touchDevice userId deviceId existing label now) := by
  unfold touchDevice relabelDevice
  refine .bind ?_ fun relabeled => ?_
  · split
    · exact forall_pure _
    · split
      · exact forall_pure _
      · exact .bind (perform_addsOnly trivial) fun _ => perform_addsOnly trivial
  · cases relabeled with
    | some document => exact forall_pure _
    | none =>
      exact .bind (perform_addsOnly trivial) fun _ => .bind (perform_addsOnly trivial) fun _ =>
        forall_pure _

theorem registerOrUpdateDevice_addsOnly (userId publicKey : String)
    (clientDeviceId deviceLabel : Option String) (uuid : String) (now : Nat) :
    Forall ServerCommand.AddsOnly
      (registerOrUpdateDevice userId publicKey clientDeviceId deviceLabel uuid now) := by
  unfold registerOrUpdateDevice
  refine .bind (forall_require _ _) fun _ => .bind (perform_addsOnly trivial) fun existing => ?_
  cases existing with
  | none =>
    exact .bind (perform_addsOnly trivial) fun inserted => .bind (forall_require _ _) fun _ =>
      forall_pure _
  | some existing =>
    dsimp only
    split
    · exact touchDevice_addsOnly _ _ _ _ _
    · exact .bind (perform_addsOnly trivial) fun _ => .bind (perform_addsOnly trivial) fun _ =>
        .bind (forall_orFail _ _) fun _ => forall_pure _

theorem deleteDeviceForUser_addsOnly (userId deviceId : String) :
    Forall ServerCommand.AddsOnly (deleteDeviceForUser userId deviceId) :=
  .bind (perform_addsOnly trivial) fun _ => forall_pure _

theorem findUserById_lookup (id : String) :
    Forall ServerCommand.Lookup (findUserById id) := by
  unfold findUserById
  dsimp only
  split
  · exact forall_pure _
  · exact forall_perform.mpr trivial

theorem resolveGuestGuestDataExpiresAt_lookup (stamp : SendStamp) (senderId recipientId : String) :
    Forall ServerCommand.Lookup (resolveGuestGuestDataExpiresAt stamp senderId recipientId) := by
  unfold resolveGuestGuestDataExpiresAt
  refine .bind (forall_perform.mpr trivial) fun cfg => forall_ite ?_ (forall_pure _)
  refine .bind (findUserById_lookup senderId) fun a => ?_
  exact .bind (findUserById_lookup recipientId) fun b => forall_ite (forall_pure _) (forall_pure _)

theorem existingDirectConversation_lookup (userA userB : String) :
    Forall ServerCommand.Lookup (existingDirectConversation userA userB) := by
  unfold existingDirectConversation findDirectConversationIdBetween
  refine .bind ?_ fun id => ?_
  · split
    · exact forall_pure _
    · exact .bind (forall_perform.mpr trivial) fun _ => forall_pure _
  · cases id with
    | none => exact forall_pure _
    | some id => exact forall_perform.mpr trivial

theorem findOrCreateDirectConversation_lookup {userA userB : String}
    (trimmedA : EcmaText.Trimmed userA) (trimmedB : EcmaText.Trimmed userB) (uuid : String)
    (now : Nat) (guestDataExpiresAt : Option Nat) :
    Forall ServerCommand.Lookup
      (findOrCreateDirectConversation userA userB uuid now guestDataExpiresAt) := by
  unfold findOrCreateDirectConversation
  refine .bind (existingDirectConversation_lookup userA userB) fun existing => ?_
  cases existing with
  | some existing => exact forall_pure _
  | none =>
    refine .bind (forall_perform.mpr ?_) fun inserted => ?_
    · intro id member
      rcases EcmaText.mem_sortPair member with rfl | rfl
      · exact trimmedA
      · exact trimmedB
    · cases inserted with
      | true => exact forall_pure _
      | false =>
        exact .bind (existingDirectConversation_lookup userA userB) fun _ => forall_orFail _ _

theorem requireDirectThread_lookup (conversationId : String) :
    Forall ServerCommand.Lookup (requireDirectThread conversationId) := by
  unfold requireDirectThread lookupConversationById
  refine .bind ?_ fun found => ?_
  · dsimp only
    split
    · exact forall_pure _
    · exact .bind (forall_perform.mpr trivial) fun _ => forall_pure _
  · split
    · exact forall_fail _
    · exact forall_fail _
    · exact forall_pure _

theorem lookup_addsOnly {α : Type} {p : ServerProgram α} (lookup : Forall ServerCommand.Lookup p) :
    Forall ServerCommand.AddsOnly p := lookup.mono fun _ lookup => lookup.addsOnly

theorem insertDirectMessageAndPublish_addsOnly (recipientUserId : String) (doc : MessageDocument)
    (originSocketId : Option String) :
    Forall ServerCommand.AddsOnly
      (insertDirectMessageAndPublish recipientUserId doc originSocketId) := by
  unfold insertDirectMessageAndPublish insertMessage
  refine .bind (.bind (perform_addsOnly trivial) fun _ => .bind (forall_require _ _) fun _ =>
    perform_addsOnly trivial) fun _ => ?_
  exact .bind (perform_addsOnly trivial) fun _ => .bind (perform_addsOnly trivial) fun _ =>
    forall_pure _

theorem assertGuestGuest_addsOnly (sender recipient : UserDocument) :
    Forall ServerCommand.AddsOnly (assertGuestGuestDirectMessagingAllowed sender recipient) :=
  forall_require _ _

theorem sendToRecipient_addsOnly (sender : UserDocument) {senderId recipientUserId : String}
    (trimmedSender : EcmaText.Trimmed senderId) (trimmedRecipient : EcmaText.Trimmed recipientUserId)
    (payload : SendMessageRequest) (stamp : SendStamp) (originSocketId : Option String) :
    Forall ServerCommand.AddsOnly
      (sendToRecipient sender senderId recipientUserId payload stamp originSocketId) := by
  unfold sendToRecipient
  refine .bind (forall_require _ _) fun _ => ?_
  refine .bind (lookup_addsOnly (findUserById_lookup recipientUserId)) fun found => ?_
  refine .bind (forall_orFail _ _) fun recipient => ?_
  refine .bind (assertGuestGuest_addsOnly sender recipient) fun _ => ?_
  refine .bind (lookup_addsOnly
    (resolveGuestGuestDataExpiresAt_lookup stamp senderId recipientUserId)) fun guestExp => ?_
  refine .bind (lookup_addsOnly (findOrCreateDirectConversation_lookup trimmedSender
    trimmedRecipient stamp.conversationUuid stamp.now guestExp)) fun conv => ?_
  exact insertDirectMessageAndPublish_addsOnly recipientUserId
    (newMessage conv.id senderId payload stamp guestExp) originSocketId

theorem sendToConversation_addsOnly (sender : UserDocument) (senderId conversationId : String)
    (payload : SendMessageRequest) (stamp : SendStamp) (originSocketId : Option String) :
    Forall ServerCommand.AddsOnly
      (sendToConversation sender senderId conversationId payload stamp originSocketId) := by
  unfold sendToConversation
  refine .bind (lookup_addsOnly (requireDirectThread_lookup conversationId)) fun conv => ?_
  refine .bind (forall_require _ _) fun _ => ?_
  refine .bind (forall_orFail _ _) fun recipientUserId => ?_
  refine .bind (lookup_addsOnly (findUserById_lookup recipientUserId)) fun found => ?_
  refine .bind (forall_orFail _ _) fun recipient => ?_
  refine .bind (assertGuestGuest_addsOnly sender recipient) fun _ => ?_
  refine .bind (lookup_addsOnly
    (resolveGuestGuestDataExpiresAt_lookup stamp senderId recipientUserId)) fun guestExp => ?_
  exact insertDirectMessageAndPublish_addsOnly recipientUserId
    (newMessage conv.id senderId payload stamp guestExp) originSocketId

theorem sendMessageForUser_addsOnly (sender : UserId) (payload : SendMessageRequest)
    (stamp : SendStamp) (originSocketId : Option String) :
    Forall ServerCommand.AddsOnly
      (sendMessageForUser sender.val payload stamp originSocketId) := by
  unfold sendMessageForUser
  refine .bind (lookup_addsOnly (findUserById_lookup sender.val)) fun found => ?_
  refine .bind (forall_orFail _ _) fun senderDoc => ?_
  refine forall_ite ?_ (forall_ite ?_ ?_)
  · exact sendToRecipient_addsOnly senderDoc sender.trimmed (EcmaText.trimmed_trim _) payload stamp
      originSocketId
  · exact sendToConversation_addsOnly senderDoc sender.val (trimmedField payload.conversationId)
      payload stamp originSocketId
  · exact forall_fail _

end AddsOnly

section BatchUpload

/-- What a batch upload makes of one stored message. -/
def syncedMessage (conversationIds : List String) (sourceDeviceId targetDeviceId : String)
    (entries : List (String × String)) (m : MessageDocument) : MessageDocument :=
  if Database.canSync conversationIds sourceDeviceId m then
    match OrderedMap.get entries m.id with
    | some key => m.setKeyFor targetDeviceId key
    | none => m
  else m

theorem syncedMessage_id (conversationIds : List String) (source target : String)
    (entries : List (String × String)) (m : MessageDocument) :
    (syncedMessage conversationIds source target entries m).id = m.id := by
  unfold syncedMessage
  split
  · split <;> rfl
  · rfl

/-- One entry and the rest, for entries of distinct messages. -/
theorem syncedMessage_cons (conversationIds : List String) (source target messageId key : String)
    (rest : List (String × String)) (fresh : messageId ∉ rest.map Prod.fst)
    (m : MessageDocument) :
    syncedMessage conversationIds source target rest
      (if m.id = messageId && Database.canSync conversationIds source m
        then m.setKeyFor target key else m) =
      syncedMessage conversationIds source target ((messageId, key) :: rest) m := by
  have absent : OrderedMap.get rest messageId = none := by
    unfold OrderedMap.get
    rw [Option.map_eq_none_iff, List.find?_eq_none]
    intro entry member same
    exact fresh (List.mem_map.mpr ⟨entry, member, by simpa using same⟩)
  by_cases same : m.id = messageId
  · subst same
    cases eligible : Database.canSync conversationIds source m with
    | false => simp [syncedMessage, eligible]
    | true =>
      have later : syncedMessage conversationIds source target rest (m.setKeyFor target key) =
          m.setKeyFor target key := by
        unfold syncedMessage
        rw [MessageDocument.setKeyFor_id, absent]
        split <;> rfl
      simp only [decide_true, Bool.and_self, if_true, later]
      simp [syncedMessage, eligible, OrderedMap.get]
  · have skip : OrderedMap.get ((messageId, key) :: rest) m.id = OrderedMap.get rest m.id := by
      simp [OrderedMap.get, Ne.symm same]
    simp [same, syncedMessage, skip]

/-- The upload loop updates every message once. -/
theorem uploadKeys_exec (conversationIds : List String) (source target : String)
    (entries : List (String × String)) (distinct : (entries.map Prod.fst).Nodup)
    (counts : BatchKeyUpload) (db : Database) (wf : db.WellFormed) :
    ∃ result, ServerProgram.exec (uploadKeys conversationIds source target entries counts) db =
      (.ok result, db.setMessages
        (db.messages.map (syncedMessage conversationIds source target entries))) := by
  induction entries generalizing counts db with
  | nil =>
    refine ⟨counts, Prod.ext rfl ?_⟩
    have same : db.messages.map (syncedMessage conversationIds source target []) = db.messages := by
      refine (List.map_congr_left fun m _ => ?_).trans (List.map_id _)
      simp [syncedMessage, OrderedMap.get]
    rw [same]
    rfl
  | cons entry rest ih =>
    obtain ⟨messageId, key⟩ := entry
    obtain ⟨fresh, distinctRest⟩ := List.nodup_cons.mp distinct
    have stored := ServerCommand.exec_wellFormed
      (.setMessageKey messageId conversationIds source target key) db wf
    have updated : Collection.updateFirst
        (fun m : MessageDocument => m.id = messageId && Database.canSync conversationIds source m)
        (MessageDocument.setKeyFor target key) db.messages =
        db.messages.map fun m => if m.id = messageId && Database.canSync conversationIds source m
          then m.setKeyFor target key else m :=
      Collection.updateFirst_eq_map wf.messageIds messageId (fun m _ matched => by
        simp only [Bool.and_eq_true, decide_eq_true_eq] at matched
        exact matched.1) _
    obtain ⟨result, hrest⟩ := ih distinctRest
      (if (if db.messages.any fun m : MessageDocument =>
          m.id = messageId && Database.canSync conversationIds source m then 1 else 0) = 1
        then { counts with applied := counts.applied + 1 }
        else { counts with skipped := counts.skipped + 1 })
      ((ServerCommand.setMessageKey messageId conversationIds source target key).exec db).2 stored
    refine ⟨result, hrest.trans (Prod.ext rfl ?_)⟩
    simp only [ServerCommand.exec, Database.setMessages, updated, List.map_map]
    congr 1
    refine List.map_congr_left fun m _ => ?_
    exact syncedMessage_cons conversationIds source target messageId key rest fresh m

/-- The conversations a batch upload of a user may touch. -/
def Database.ownConversationIds (db : Database) (userId : String) : List String :=
  (db.conversationIdsOf userId).filter fun id => id ≠ ""

/-- Both devices of a batch upload are registered to its user. -/
def Database.bothRegistered (db : Database) (userId sourceDeviceId targetDeviceId : String) : Bool :=
  (db.findDeviceRow userId targetDeviceId).isSome && (db.findDeviceRow userId sourceDeviceId).isSome

/-- The store after a batch upload. -/
def Database.batchSynced (db : Database) (userId sourceDeviceId targetDeviceId : String)
    (keys : List SyncMessageKeyEntry) : Database :=
  if db.bothRegistered userId sourceDeviceId targetDeviceId then
    db.setMessages (db.messages.map (syncedMessage (db.ownConversationIds userId) sourceDeviceId
      targetDeviceId (lastByMessage keys)))
  else db

theorem syncedMessage_of_not_eligible {conversationIds : List String} {source target : String}
    {entries : List (String × String)} {m : MessageDocument}
    (excluded : Database.canSync conversationIds source m = false) :
    syncedMessage conversationIds source target entries m = m := by
  simp [syncedMessage, excluded]

theorem findConversationIdsForParticipant_exec (u : UserId) (db : Database) :
    ServerProgram.exec (findConversationIdsForParticipant u.val) db =
      (.ok (db.ownConversationIds u.val), db) := by
  simp only [ServerProgram.exec, findConversationIdsForParticipant, u.trim_val, u.nonempty,
    if_false, Program.run_bind, Program.run_perform, Program.run_pure]
  rfl

/-- A batch upload is refused, or it updates every message once. -/
theorem applyBatchSyncMessageKeys_exec (u : UserId) (source target : WireDeviceId)
    (keys : List SyncMessageKeyEntry) (db : Database) (wf : db.WellFormed) :
    (ServerProgram.exec (applyBatchSyncMessageKeys u.val source.val target.val keys) db).2 =
        db.batchSynced u.val source.val target.val keys ∧
      (db.bothRegistered u.val source.val target.val = true →
        ∃ counts, (ServerProgram.exec
          (applyBatchSyncMessageKeys u.val source.val target.val keys) db).1 = .ok counts) := by
  unfold ServerProgram.exec applyBatchSyncMessageKeys
  simp only [u.trim_val, source.trim_val, target.trim_val, u.nonempty, source.val_ne_empty,
    target.val_ne_empty, ne_eq, not_false_eq_true, decide_true, Bool.and_self, Program.run_bind,
    Program.run_require, if_true, findUserDeviceRow, Program.run_perform, ServerCommand.exec]
  cases targetRow : db.findDeviceRow u.val target.val with
  | none => simp [Database.batchSynced, Database.bothRegistered, targetRow]
  | some targetDoc =>
    cases sourceRow : db.findDeviceRow u.val source.val with
    | none => simp [Database.batchSynced, Database.bothRegistered, targetRow, sourceRow]
    | some sourceDoc =>
      have both : db.bothRegistered u.val source.val target.val = true := by
        simp [Database.bothRegistered, targetRow, sourceRow]
      have own := findConversationIdsForParticipant_exec u db
      unfold ServerProgram.exec at own
      simp only [sourceRow, Option.isSome_some, if_true, own, Database.batchSynced, both]
      by_cases alone : db.ownConversationIds u.val = []
      · have same : db.messages.map (syncedMessage (db.ownConversationIds u.val) source.val
            target.val (lastByMessage keys)) = db.messages := by
          refine (List.map_congr_left fun m _ => ?_).trans (List.map_id _)
          exact syncedMessage_of_not_eligible (by simp [Database.canSync, alone])
        rw [same, if_pos alone]
        exact ⟨rfl, fun _ => ⟨_, rfl⟩⟩
      · rw [if_neg alone]
        obtain ⟨counts, uploaded⟩ := uploadKeys_exec (db.ownConversationIds u.val) source.val
          target.val (lastByMessage keys) (OrderedMap.nodup_keys_ofEntries _) ⟨0, 0⟩ db wf
        unfold ServerProgram.exec at uploaded
        rw [uploaded]
        exact ⟨rfl, fun _ => ⟨counts, rfl⟩⟩

end BatchUpload

end MessagingSystem.Source.Server

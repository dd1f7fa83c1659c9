import MessagingSystem.Foundation.Keyset
import MessagingSystem.Source.Server.ProgramEffects

/-!
# Pages of wrapped keys

What the listing of the wrapped keys of a device answers: the messages that carry
one, in thread order, from the start or after the message the cursor names.
-/
namespace MessagingSystem.Source.Server
open Foundation Program

/-- The page size the service takes for a limit. -/
def pageCap (limit : Nat) : Nat := min (max 1 limit) MAX_LIST_LIMIT

/-- The messages of the user's threads with a key for the device, in thread order. -/
def Database.keyedMessages (db : Database) (userId deviceId : String) : List MessageDocument :=
  Keyset.sorted MessageDocument.position
    (db.messages.filter (Database.canSync (db.ownConversationIds userId) deviceId))

namespace Database

variable {db : Database} {userId deviceId : String}

theorem WellFormed.positions (wf : db.WellFormed) : (db.messages.map MessageDocument.position).Nodup := by
  have ids : (db.messages.map MessageDocument.position).map (fun p => (ofLex p).2) =
      db.messages.map MessageDocument.id := by
    rw [List.map_map]
    rfl
  exact List.Nodup.of_map _ (ids ▸ wf.messageIds)

theorem keyedMessages_ordered (wf : db.WellFormed) :
    Keyset.Ordered MessageDocument.position (db.keyedMessages userId deviceId) := by
  apply Keyset.sorted_ordered
  exact wf.positions.sublist ((List.filter_sublist).map MessageDocument.position)

theorem mem_keyedMessages {m : MessageDocument} : m ∈ db.keyedMessages userId deviceId ↔
    m ∈ db.messages ∧ canSync (db.ownConversationIds userId) deviceId m = true := by
  rw [keyedMessages, Keyset.mem_sorted, List.mem_filter]

theorem keyedMessages_ids (wf : db.WellFormed) :
    ((db.keyedMessages userId deviceId).map MessageDocument.id).Nodup := by
  have perm := (@Keyset.sorted_perm _ _ _ MessageDocument.position
    (db.messages.filter (canSync (db.ownConversationIds userId) deviceId))).map MessageDocument.id
  exact perm.nodup_iff.mpr (wf.messageIds.sublist ((List.filter_sublist).map MessageDocument.id))

/-- The documents of a page. -/
theorem listMessageKeys_exec (wf : db.WellFormed) (bound : Option (Nat ×ₗ String)) (limit : Nat) :
    (ServerCommand.listMessageKeys (db.ownConversationIds userId) deviceId bound limit).exec db =
      ((Keyset.after MessageDocument.position bound (db.keyedMessages userId deviceId)).take limit, db) := by
  have cursor : db.messages.filter (inKeyPage (db.ownConversationIds userId) deviceId bound) =
      (db.messages.filter (canSync (db.ownConversationIds userId) deviceId)).filter
        (Keyset.isAfter MessageDocument.position bound) := by
    rw [List.filter_filter]
    apply List.filter_congr
    intro m _
    rw [Bool.and_comm]
    cases bound with
    | none => rfl
    | some k => simp [inKeyPage, Keyset.isAfter]
  have kept : ((db.messages.filter (canSync (db.ownConversationIds userId) deviceId)).map
      MessageDocument.position).Nodup :=
    wf.positions.sublist ((List.filter_sublist).map MessageDocument.position)
  have sorted := Keyset.sorted_filter kept (Keyset.isAfter MessageDocument.position bound)
  simp only [ServerCommand.exec, cursor]
  exact congrArg (fun l => (l.take limit, db)) sorted

end Database

section Listing

variable {db db' : Database} {page : SyncMessageKeysPage} {limit : Nat}

theorem syncAnchor_named {userId deviceId id : String} (nonempty : id ≠ "") :
    syncAnchor userId deviceId (some id) = (do
      let found ← findMessageById id
      let anchor ← .orFail found ⟨"NOT_FOUND", 404, "afterMessageId not found"⟩
      assertUserParticipantInConversation userId anchor.conversationId
      .require (anchor.hasKeyFor deviceId)
        ⟨"INVALID_REQUEST", 400, "Cursor message has no wrapped key for this device"⟩
      pure (some anchor.position)) := by
  unfold syncAnchor
  split
  · rename_i absent
    cases absent
  · rename_i empty
    exact absurd (Option.some.inj empty) nonempty
  · rename_i same
    cases same
    rfl

/-- A cursor names the message whose place is the bound. -/
theorem syncAnchor_exec {userId deviceId id : String} {bound : Option (Nat ×ₗ String)} (nonempty : id ≠ "")
    (answered : ServerProgram.exec (syncAnchor userId deviceId (some id)) db = (.ok bound, db')) :
    db' = db ∧ ∃ m, db.findMessageRow (EcmaText.trim id) = some m ∧ bound = some m.position := by
  rw [syncAnchor_named nonempty] at answered
  unfold ServerProgram.exec findMessageById assertUserParticipantInConversation at answered
  simp only [run_bind, run_perform, ServerCommand.exec] at answered
  cases found : db.findMessageRow (EcmaText.trim id) with
  | none => simp [found] at answered
  | some m =>
    simp only [found, run_orFail, run_require] at answered
    split at answered
    · rename_i allowed
      split at answered
      · rename_i keyed
        cases answered
        exact ⟨(Prod.mk.inj keyed).2.symm.trans (Prod.mk.inj allowed).2.symm, m, rfl, rfl⟩
      · cases answered
    · cases answered

/-- A page that is answered: the messages after the bound of the cursor. -/
theorem listSync_exec (wf : db.WellFormed) (user : UserId) (device : WireDeviceId) {cursor : Option String}
    (answered : ServerProgram.exec (listSyncMessageKeysForUserDevice user.val device.val cursor limit) db =
      (.ok page, db')) :
    (db' = db ∧ db.keyedMessages user.val device.val = [] ∧ page = syncPage device.val (pageCap limit) []) ∨
      ∃ bound db₁, ServerProgram.exec (syncAnchor user.val device.val cursor) db = (.ok bound, db₁) ∧
        (db₁ = db → db' = db ∧ page = syncPage device.val (pageCap limit)
          ((Keyset.after MessageDocument.position bound (db.keyedMessages user.val device.val)).take
            (pageCap limit + 1))) := by
  have own := findConversationIdsForParticipant_exec user db
  unfold ServerProgram.exec at own answered
  unfold listSyncMessageKeysForUserDevice at answered
  simp only [user.trim_val, device.trim_val, user.nonempty, device.val_ne_empty, ne_eq, not_false_eq_true,
    decide_true, Bool.and_self, run_bind, run_require, if_true, findUserDeviceRow, run_perform,
    ServerCommand.exec] at answered
  cases row : db.findDeviceRow user.val device.val with
  | none => simp [row] at answered
  | some doc =>
    simp only [row, Option.isSome_some, if_true, own] at answered
    by_cases alone : db.ownConversationIds user.val = []
    · left
      have empty : db.keyedMessages user.val device.val = [] := by
        apply List.eq_nil_iff_forall_not_mem.mpr
        intro m member
        have eligible := (Database.mem_keyedMessages.mp member).2
        simp [Database.canSync, alone] at eligible
      rw [if_pos alone] at answered
      cases answered
      exact ⟨rfl, empty, rfl⟩
    · right
      rw [if_neg alone, run_bind] at answered
      unfold ServerProgram.exec
      cases anchored : (syncAnchor user.val device.val cursor).run ServerCommand.exec db with
      | mk anchor db₁ =>
        rw [anchored] at answered
        cases anchor with
        | error e => cases answered
        | ok bound =>
          refine ⟨bound, db₁, rfl, fun same => ?_⟩
          subst same
          have docs := @Database.listMessageKeys_exec db₁ user.val device.val wf bound (pageCap limit + 1)
          simp only [run_bind, run_perform, run_pure] at answered
          unfold pageCap at docs ⊢
          rw [docs] at answered
          cases answered
          exact ⟨rfl, rfl⟩

/-- The first page. -/
theorem listSync_first (wf : db.WellFormed) (user : UserId) (device : WireDeviceId)
    (answered : ServerProgram.exec (listSyncMessageKeysForUserDevice user.val device.val none limit) db =
      (.ok page, db')) :
    db' = db ∧ page = syncPage device.val (pageCap limit)
      ((db.keyedMessages user.val device.val).take (pageCap limit + 1)) := by
  rcases listSync_exec wf user device answered with ⟨same, empty, result⟩ | ⟨bound, db₁, anchored, result⟩
  · rw [empty]
    exact ⟨same, result⟩
  · cases anchored
    have page := result rfl
    rwa [Keyset.after_none] at page

/-- The page after the message a cursor names. -/
theorem listSync_next (wf : db.WellFormed) (user : UserId) (device : WireDeviceId)
    {before rest : List MessageDocument} {m : MessageDocument}
    (split : db.keyedMessages user.val device.val = before ++ m :: rest)
    (trimmed : EcmaText.trim m.id = m.id) (nonempty : m.id ≠ "")
    (answered : ServerProgram.exec (listSyncMessageKeysForUserDevice user.val device.val (some m.id) limit) db =
      (.ok page, db')) :
    db' = db ∧ page = syncPage device.val (pageCap limit) (rest.take (pageCap limit + 1)) := by
  have ordered := @Database.keyedMessages_ordered db user.val device.val wf
  rw [split] at ordered
  have member : m ∈ db.messages := by
    have keyed : m ∈ db.keyedMessages user.val device.val := by simp [split]
    exact (Database.mem_keyedMessages.mp keyed).1
  have found : db.findMessageRow m.id = some m := by
    unfold Database.findMessageRow
    exact (Collection.find_key wf.messageIds).mpr ⟨member, rfl⟩
  rcases listSync_exec wf user device answered with ⟨-, empty, -⟩ | ⟨bound, db₁, anchored, result⟩
  · simp [split] at empty
  · obtain ⟨same, row, named, rfl⟩ := syncAnchor_exec nonempty anchored
    rw [trimmed, found] at named
    cases named
    have page := result same
    rwa [split, Keyset.after_split ordered] at page

end Listing

section Uploaded

variable {db : Database} {user : UserId} {source target : WireDeviceId} {keys : List SyncMessageKeyEntry}

/-- A message that no upload names stays as it is. -/
theorem syncedMessage_unnamed {conversationIds : List String} {source target : String} {m : MessageDocument}
    (unnamed : ∀ k ∈ keys, EcmaText.trim k.messageId ≠ m.id) :
    syncedMessage conversationIds source target (lastByMessage keys) m = m := by
  have absent : OrderedMap.get (lastByMessage keys) m.id = none := by
    unfold lastByMessage
    rw [OrderedMap.get_ofEntries, OrderedMap.get, Option.map_eq_none_iff, List.find?_eq_none]
    intro entry member same
    obtain ⟨k, listed, rfl⟩ := List.mem_map.mp (List.mem_reverse.mp member)
    exact unnamed k listed (of_decide_eq_true same)
  unfold syncedMessage
  rw [absent]
  split <;> rfl

theorem syncedMessage_position (conversationIds : List String) (source target : String)
    (entries : List (String × String)) (m : MessageDocument) :
    (syncedMessage conversationIds source target entries m).position = m.position := by
  unfold syncedMessage
  split
  · split <;> rfl
  · rfl

/-- What an upload has for a message is the key of one of its entries. -/
theorem mem_of_uploaded {id key : String} (uploaded : OrderedMap.get (lastByMessage keys) id = some key) :
    ∃ k ∈ keys, EcmaText.trim k.messageId = id ∧ k.encryptedMessageKey = key := by
  have held := (OrderedMap.get_eq_some_iff (OrderedMap.nodup_keys_ofEntries _)).mp uploaded
  obtain ⟨k, listed, same⟩ := List.mem_map.mp (OrderedMap.mem_of_mem_ofEntries held)
  cases same
  exact ⟨k, listed, rfl, rfl⟩

/-- An upload with a single entry for a message has that one. -/
theorem uploaded_of_mem (distinct : (keys.map fun k => EcmaText.trim k.messageId).Nodup)
    {k : SyncMessageKeyEntry} (listed : k ∈ keys) :
    OrderedMap.get (lastByMessage keys) (EcmaText.trim k.messageId) = some k.encryptedMessageKey := by
  have names : ((keys.map fun k => (EcmaText.trim k.messageId, k.encryptedMessageKey)).map Prod.fst).Nodup := by
    rw [List.map_map]
    exact distinct
  unfold lastByMessage
  rw [OrderedMap.ofEntries_of_nodup names]
  exact (OrderedMap.get_eq_some_iff names).mpr (List.mem_map_of_mem listed)

/-- An upload of nonempty keys leaves the messages of the source device as they are listed. -/
theorem canSync_syncedMessage (nonempty : ∀ k ∈ keys, k.encryptedMessageKey ≠ "")
    (conversationIds : List String) (source target : String) (m : MessageDocument) :
    Database.canSync conversationIds source
        (syncedMessage conversationIds source target (lastByMessage keys) m) =
      Database.canSync conversationIds source m := by
  unfold syncedMessage
  split
  · rename_i eligible
    split
    · rename_i key uploaded
      obtain ⟨k, listed, -, rfl⟩ := mem_of_uploaded uploaded
      rw [eligible]
      unfold Database.canSync at eligible ⊢
      rw [Bool.and_eq_true] at eligible
      rw [MessageDocument.setKeyFor_conversationId, eligible.1, Bool.true_and]
      unfold MessageDocument.hasKeyFor at eligible ⊢
      rw [MessageDocument.keyFor_setKeyFor]
      by_cases same : source = target
      · rw [if_pos same]
        exact decide_eq_true (nonempty k listed)
      · rw [if_neg same]
        exact eligible.2
    · rfl
  · rfl

theorem keyedMessages_batchSynced (registered : db.bothRegistered user.val source.val target.val = true)
    (nonempty : ∀ k ∈ keys, k.encryptedMessageKey ≠ "") :
    (db.batchSynced user.val source.val target.val keys).keyedMessages user.val source.val =
      (db.keyedMessages user.val source.val).map
        (syncedMessage (db.ownConversationIds user.val) source.val target.val (lastByMessage keys)) := by
  have own : (db.batchSynced user.val source.val target.val keys).ownConversationIds user.val =
      db.ownConversationIds user.val := by
    unfold Database.batchSynced
    rw [if_pos registered]
    rfl
  unfold Database.keyedMessages
  rw [own, ← Keyset.sorted_map _ (syncedMessage_position _ _ _ _)]
  congr 1
  unfold Database.batchSynced
  rw [if_pos registered]
  unfold Database.setMessages
  rw [List.filter_map]
  congr 1
  apply List.filter_congr
  intro m _
  exact canSync_syncedMessage nonempty _ _ _ m

/-- An upload that is answered comes from a user with both devices. -/
theorem applyBatch_registered {counts : BatchKeyUpload} {db' : Database}
    (answered : ServerProgram.exec (applyBatchSyncMessageKeys user.val source.val target.val keys) db =
      (.ok counts, db')) : db.bothRegistered user.val source.val target.val = true := by
  unfold ServerProgram.exec applyBatchSyncMessageKeys at answered
  simp only [user.trim_val, source.trim_val, target.trim_val, user.nonempty, source.val_ne_empty,
    target.val_ne_empty, ne_eq, not_false_eq_true, decide_true, Bool.and_self, run_bind, run_require, if_true,
    findUserDeviceRow, run_perform, ServerCommand.exec] at answered
  unfold Database.bothRegistered
  cases targetRow : db.findDeviceRow user.val target.val with
  | none => simp [targetRow] at answered
  | some row =>
    cases sourceRow : db.findDeviceRow user.val source.val with
    | none => simp [targetRow, sourceRow] at answered
    | some row => rfl

end Uploaded

end MessagingSystem.Source.Server

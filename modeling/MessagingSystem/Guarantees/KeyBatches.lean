import MessagingSystem.Source.Server.SyncPages

/-!
# A key batch is a fold of single updates

A batch writes the slot of its target device, and which messages it may write
depends on the slot of the source device and the thread. So no update of a batch
changes what the others may do, and entries of one message leave the last one.
-/
namespace MessagingSystem.Guarantees.KeyBatches
open Foundation Source.Server

/-- A batch of the user may write to the message: it is in one of the user's conversations, and holds a key for
the source device that is not empty. -/
def Eligible (db : Database) (user : UserId) (source : WireDeviceId) (m : MessageDocument) : Prop :=
  (∃ conv ∈ db.conversations, conv.id = m.conversationId ∧ conv.id ≠ "" ∧ user.val ∈ conv.participantIds) ∧
    ∃ key, m.keyFor source.val = some key ∧ key ≠ ""

def Names (keys : List SyncMessageKeyEntry) (m : MessageDocument) : Prop :=
  ∃ k ∈ keys, EcmaText.trim k.messageId = m.id

/-- The answer to a batch, and the store it leaves. -/
def batch (user : UserId) (source target : WireDeviceId) (keys : List SyncMessageKeyEntry) (db : Database) :
    Except AppError BatchKeyUpload × Database :=
  ServerProgram.exec (applyBatchSyncMessageKeys user.val source.val target.val keys) db

/-- The entries of a batch one by one, each as a batch of its own. -/
def oneByOne (user : UserId) (source target : WireDeviceId) (keys : List SyncMessageKeyEntry) (db : Database) :
    Database :=
  keys.foldl (fun db entry => (batch user source target [entry] db).2) db

/-- The contract of a batch. -/
structure FoldOfUpdates (user : UserId) (source target : WireDeviceId) (keys : List SyncMessageKeyEntry)
    (db : Database) : Prop where
  fold : (batch user source target keys db).2 = oneByOne user source target keys db
  twice : (batch user source target keys (batch user source target keys db).2).2 =
    (batch user source target keys db).2
  slots : ∃ update : MessageDocument → MessageDocument,
    (batch user source target keys db).2 = db.setMessages (db.messages.map update) ∧
      ∀ m ∈ db.messages, update m ≠ m → Eligible db user source m ∧
        ∃ k ∈ keys, EcmaText.trim k.messageId = m.id ∧ update m = m.setKeyFor target.val k.encryptedMessageKey
  applied : ∃ (updated : List MessageDocument) (skipped : Nat), (batch user source target keys db).1 = .ok ⟨updated.length, skipped⟩ ∧
    (updated.map MessageDocument.id).Nodup ∧
      ∀ m, m ∈ updated ↔ m ∈ db.messages ∧ Eligible db user source m ∧ Names keys m

section Messages

variable {conversationIds : List String} {source target : String} {m : MessageDocument}

theorem setKeyFor_setKeyFor (target first second : String) (m : MessageDocument) :
    (m.setKeyFor target first).setKeyFor target second = m.setKeyFor target second := by
  have keys : (((m.encryptedMessageKeys.getD ∅).set target first).set target second) =
      (m.encryptedMessageKeys.getD ∅).set target second := by
    apply Record.ext
    intro slot
    rw [Record.get_set, Record.get_set, Record.get_set]
    split <;> rfl
  unfold MessageDocument.setKeyFor
  rw [Option.getD_some, keys]

theorem canSync_setKeyFor (different : source ≠ target) (key : String) :
    Database.canSync conversationIds source (m.setKeyFor target key) =
      Database.canSync conversationIds source m := by
  unfold Database.canSync MessageDocument.hasKeyFor
  rw [MessageDocument.setKeyFor_conversationId, MessageDocument.keyFor_setKeyFor, if_neg different]

theorem canSync_syncedMessage_of_ne (different : source ≠ target) (entries : List (String × String)) :
    Database.canSync conversationIds source (syncedMessage conversationIds source target entries m) =
      Database.canSync conversationIds source m := by
  unfold syncedMessage
  split
  · split
    · exact canSync_setKeyFor different _
    · rfl
  · rfl

theorem syncedMessage_of_eligible (eligible : Database.canSync conversationIds source m = true)
    (entries : List (String × String)) :
    syncedMessage conversationIds source target entries m =
      (OrderedMap.get entries m.id).elim m fun key => m.setKeyFor target key := by
  unfold syncedMessage
  rw [if_pos eligible]
  cases OrderedMap.get entries m.id <;> rfl

/-- Two uploads make of a message what the second, or else the first, has for it. -/
theorem syncedMessage_comp (different : source ≠ target) {first second all : List (String × String)}
    (merged : ∀ id, OrderedMap.get all id = (OrderedMap.get second id).or (OrderedMap.get first id)) :
    syncedMessage conversationIds source target second (syncedMessage conversationIds source target first m) =
      syncedMessage conversationIds source target all m := by
  cases eligible : Database.canSync conversationIds source m with
  | false =>
    rw [syncedMessage_of_not_eligible eligible, syncedMessage_of_not_eligible eligible,
      syncedMessage_of_not_eligible eligible]
  | true =>
    have still := (canSync_syncedMessage_of_ne (m := m) different first).trans eligible
    rw [syncedMessage_of_eligible still, syncedMessage_id, syncedMessage_of_eligible eligible,
      syncedMessage_of_eligible eligible, merged]
    cases OrderedMap.get second m.id with
    | none => rfl
    | some key =>
      cases OrderedMap.get first m.id with
      | none => rfl
      | some before => exact setKeyFor_setKeyFor target before key m

end Messages

section Batches

variable {db : Database} {user : UserId} {source target : WireDeviceId}

theorem batch_store (wf : db.WellFormed) (keys : List SyncMessageKeyEntry) :
    (batch user source target keys db).2 = db.batchSynced user.val source.val target.val keys :=
  (applyBatchSyncMessageKeys_exec user source target keys db wf).1

theorem batch_wellFormed (wf : db.WellFormed) (keys : List SyncMessageKeyEntry) :
    (batch user source target keys db).2.WellFormed :=
  ServerProgram.exec_wellFormed _ wf

/-- One batch after another stores what the entries of both would. -/
theorem batchSynced_batchSynced (different : source.val ≠ target.val) {first second all : List SyncMessageKeyEntry}
    (merged : ∀ id, OrderedMap.get (lastByMessage all) id =
      (OrderedMap.get (lastByMessage second) id).or (OrderedMap.get (lastByMessage first) id)) :
    (db.batchSynced user.val source.val target.val first).batchSynced user.val source.val target.val second =
      db.batchSynced user.val source.val target.val all := by
  cases registered : db.bothRegistered user.val source.val target.val with
  | false => simp [Database.batchSynced, registered]
  | true =>
    have once (keys : List SyncMessageKeyEntry) : db.batchSynced user.val source.val target.val keys =
        db.setMessages (db.messages.map (syncedMessage (db.ownConversationIds user.val) source.val target.val
          (lastByMessage keys))) := if_pos registered
    have again (messages : List MessageDocument) :
        (db.setMessages messages).batchSynced user.val source.val target.val second =
        db.setMessages (messages.map (syncedMessage (db.ownConversationIds user.val) source.val target.val
          (lastByMessage second))) := if_pos registered
    rw [once first, once all, again, List.map_map]
    congr 1
    apply List.map_congr_left
    intro m _
    exact syncedMessage_comp different merged

theorem lastByMessage_snoc (keys : List SyncMessageKeyEntry) (entry : SyncMessageKeyEntry) (id : String) :
    OrderedMap.get (lastByMessage (keys ++ [entry])) id =
      (OrderedMap.get (lastByMessage [entry]) id).or (OrderedMap.get (lastByMessage keys) id) := by
  unfold lastByMessage
  rw [List.map_append, List.map_singleton, OrderedMap.ofEntries_append, OrderedMap.get_set,
    ← List.nil_append [_], OrderedMap.ofEntries_append, OrderedMap.get_set]
  split <;> rfl

theorem oneByOne_snoc (keys : List SyncMessageKeyEntry) (entry : SyncMessageKeyEntry) (db : Database) :
    oneByOne user source target (keys ++ [entry]) db =
      (batch user source target [entry] (oneByOne user source target keys db)).2 := by
  unfold oneByOne
  rw [List.foldl_append]
  rfl

theorem batchSynced_nil (db : Database) : db.batchSynced user.val source.val target.val [] = db := by
  unfold Database.batchSynced
  split
  · have same : db.messages.map (syncedMessage (db.ownConversationIds user.val) source.val target.val
        (lastByMessage [])) = db.messages := by
      refine (List.map_congr_left fun m _ => ?_).trans (List.map_id _)
      exact syncedMessage_unnamed (fun k listed => absurd listed List.not_mem_nil)
    rw [same]
    rfl
  · rfl

/-- A batch is the fold of its entries. -/
theorem batch_eq_oneByOne (wf : db.WellFormed) (different : source.val ≠ target.val)
    (keys : List SyncMessageKeyEntry) :
    (batch user source target keys db).2 = oneByOne user source target keys db := by
  induction keys using List.reverseRecOn with
  | nil =>
    rw [batch_store wf]
    exact batchSynced_nil db
  | append_singleton keys entry ih =>
    rw [oneByOne_snoc, ← ih, batch_store (batch_wellFormed wf keys), batch_store wf, batch_store wf]
    exact (batchSynced_batchSynced different (lastByMessage_snoc keys entry)).symm

theorem batch_twice (wf : db.WellFormed) (different : source.val ≠ target.val) (keys : List SyncMessageKeyEntry) :
    (batch user source target keys (batch user source target keys db).2).2 =
      (batch user source target keys db).2 := by
  rw [batch_store (batch_wellFormed wf keys), batch_store wf]
  exact batchSynced_batchSynced different fun id => (Option.or_self).symm

end Batches

section Counts

variable {db : Database} {user : UserId} {source target : WireDeviceId}

theorem any_updateFirst {D : Type} {p filter : D → Bool} {update : D → D} (keeps : ∀ d, p (update d) = p d)
    (docs : List D) : (Collection.updateFirst filter update docs).any p = docs.any p := by
  induction docs with
  | nil => rfl
  | cons d rest ih =>
    unfold Collection.updateFirst
    split
    · rw [List.any_cons, List.any_cons, keeps]
    · rw [List.any_cons, List.any_cons, ih]

/-- There is a message of this id that an update matches. -/
def updatable (db : Database) (conversationIds : List String) (source id : String) : Bool :=
  db.messages.any fun m : MessageDocument => m.id = id && Database.canSync conversationIds source m

/-- The loop counts the entries that have a message when it begins. -/
theorem uploadKeys_applied {source target : String} (different : source ≠ target) (conversationIds : List String)
    (entries : List (String × String)) (counts : BatchKeyUpload) (db : Database) :
    ∃ skipped, (ServerProgram.exec (uploadKeys conversationIds source target entries counts) db).1 =
      .ok ⟨counts.applied + (entries.filter fun entry => updatable db conversationIds source entry.1).length,
        skipped⟩ := by
  induction entries generalizing counts db with
  | nil => exact ⟨counts.skipped, rfl⟩
  | cons entry rest ih =>
    obtain ⟨id, key⟩ := entry
    have still (other : String) :
        updatable ((ServerCommand.setMessageKey id conversationIds source target key).exec db).2 conversationIds
          source other = updatable db conversationIds source other := by
      apply any_updateFirst
      intro m
      rw [MessageDocument.setKeyFor_id, canSync_setKeyFor different]
    have first : uploadKeys conversationIds source target ((id, key) :: rest) counts =
        Program.command (.setMessageKey id conversationIds source target key) fun matchedCount =>
          uploadKeys conversationIds source target rest (if matchedCount = 1
            then { counts with applied := counts.applied + 1 } else { counts with skipped := counts.skipped + 1 }) :=
      rfl
    obtain ⟨skipped, counted⟩ := ih
      (if ((ServerCommand.setMessageKey id conversationIds source target key).exec db).1 = 1
        then { counts with applied := counts.applied + 1 } else { counts with skipped := counts.skipped + 1 })
      ((ServerCommand.setMessageKey id conversationIds source target key).exec db).2
    refine ⟨skipped, ?_⟩
    rw [first]
    refine counted.trans ?_
    simp only [still]
    have reply : ((ServerCommand.setMessageKey id conversationIds source target key).exec db).1 =
        if updatable db conversationIds source id then 1 else 0 := rfl
    rw [reply]
    cases found : updatable db conversationIds source id with
    | true =>
      rw [List.filter_cons_of_pos (by exact found), List.length_cons]
      simp only [if_true]
      congr 2
      omega
    | false =>
      rw [List.filter_cons_of_neg (by simp [found])]
      rfl

theorem eligible_iff (db : Database) (user : UserId) (source : WireDeviceId) (m : MessageDocument) :
    Database.canSync (db.ownConversationIds user.val) source.val m = true ↔ Eligible db user source m := by
  unfold Database.canSync Eligible MessageDocument.hasKeyFor Database.ownConversationIds Database.conversationIdsOf
  rw [Bool.and_eq_true]
  apply and_congr
  · simp only [List.contains_iff_mem, List.mem_filter, List.mem_map, decide_eq_true_eq]
    constructor
    · rintro ⟨⟨conv, ⟨held, member⟩, same⟩, nonempty⟩
      exact ⟨conv, held, same, same ▸ nonempty, member⟩
    · rintro ⟨conv, held, same, nonempty, member⟩
      exact ⟨⟨conv, ⟨held, member⟩, same⟩, same ▸ nonempty⟩
  · cases m.keyFor source.val with
    | none => simp
    | some key => simp

theorem names_iff (keys : List SyncMessageKeyEntry) (m : MessageDocument) :
    m.id ∈ (lastByMessage keys).map Prod.fst ↔ Names keys m := by
  unfold lastByMessage Names
  rw [OrderedMap.mem_keys_ofEntries, List.map_map]
  exact List.mem_map

/-- The messages that a batch writes to. -/
def updatedMessages (db : Database) (user : UserId) (source : WireDeviceId) (keys : List SyncMessageKeyEntry) :
    List MessageDocument :=
  db.messages.filter fun m => Database.canSync (db.ownConversationIds user.val) source.val m &&
    decide (m.id ∈ (lastByMessage keys).map Prod.fst)

theorem mem_updatedMessages {keys : List SyncMessageKeyEntry} {m : MessageDocument} :
    m ∈ updatedMessages db user source keys ↔ m ∈ db.messages ∧ Eligible db user source m ∧ Names keys m := by
  unfold updatedMessages
  rw [List.mem_filter, Bool.and_eq_true, decide_eq_true_eq, eligible_iff, names_iff]

theorem updatedMessages_distinct (wf : db.WellFormed) (keys : List SyncMessageKeyEntry) :
    ((updatedMessages db user source keys).map MessageDocument.id).Nodup :=
  wf.messageIds.sublist (List.filter_sublist.map _)

/-- As many entries of the map have a message as messages are written to. -/
theorem updatedMessages_length (wf : db.WellFormed) (keys : List SyncMessageKeyEntry) :
    ((lastByMessage keys).filter fun entry =>
      updatable db (db.ownConversationIds user.val) source.val entry.1).length =
      (updatedMessages db user source keys).length := by
  have distinct := OrderedMap.nodup_keys_ofEntries
    (keys.map fun k => (EcmaText.trim k.messageId, k.encryptedMessageKey))
  have same : (((lastByMessage keys).filter fun entry =>
      updatable db (db.ownConversationIds user.val) source.val entry.1).map Prod.fst).Perm
        ((updatedMessages db user source keys).map MessageDocument.id) := by
    apply (List.perm_ext_iff_of_nodup (distinct.sublist (List.filter_sublist.map _))
      (updatedMessages_distinct wf keys)).mpr
    intro id
    unfold updatedMessages updatable
    simp only [List.mem_map, List.mem_filter, List.any_eq_true, Bool.and_eq_true, decide_eq_true_eq]
    constructor
    · rintro ⟨entry, ⟨listed, m, held, here, eligible⟩, rfl⟩
      exact ⟨m, ⟨held, eligible, entry, listed, here.symm⟩, here⟩
    · rintro ⟨m, ⟨held, eligible, entry, listed, here⟩, rfl⟩
      exact ⟨entry, ⟨listed, m, held, here.symm, eligible⟩, here⟩
  have lengths := same.length_eq
  rwa [List.length_map, List.length_map] at lengths

/-- The count in the answer of a batch. -/
theorem batch_applied (wf : db.WellFormed) (different : source.val ≠ target.val)
    (registered : db.bothRegistered user.val source.val target.val = true) (keys : List SyncMessageKeyEntry) :
    ∃ skipped, (batch user source target keys db).1 =
      .ok ⟨(updatedMessages db user source keys).length, skipped⟩ := by
  have rows : (db.findDeviceRow user.val target.val).isSome = true ∧
      (db.findDeviceRow user.val source.val).isSome = true := Bool.and_eq_true _ _ ▸ registered
  have own := findConversationIdsForParticipant_exec user db
  have answer : batch user source target keys db =
      ServerProgram.exec (if db.ownConversationIds user.val = [] then pure ⟨0, keys.length⟩
        else uploadKeys (db.ownConversationIds user.val) source.val target.val (lastByMessage keys) ⟨0, 0⟩) db := by
    unfold ServerProgram.exec at own
    unfold batch applyBatchSyncMessageKeys ServerProgram.exec
    simp only [user.trim_val, source.trim_val, target.trim_val, user.nonempty, source.val_ne_empty,
      target.val_ne_empty, ne_eq, not_false_eq_true, decide_true, Bool.and_self, Program.run_bind,
      Program.run_require, if_true, findUserDeviceRow, Program.run_perform, ServerCommand.exec, rows.1, rows.2, own]
  rw [answer]
  by_cases alone : db.ownConversationIds user.val = []
  · have none : updatedMessages db user source keys = [] := by
      unfold updatedMessages
      simp [Database.canSync, alone]
    rw [if_pos alone, none]
    exact ⟨keys.length, rfl⟩
  · obtain ⟨skipped, counted⟩ := uploadKeys_applied different (db.ownConversationIds user.val) (lastByMessage keys)
      ⟨0, 0⟩ db
    rw [Nat.zero_add, updatedMessages_length wf] at counted
    rw [if_neg alone]
    exact ⟨skipped, counted⟩

end Counts

section Contract

variable {db : Database} {user : UserId} {source target : WireDeviceId}

/-- What a batch changes of a message. -/
theorem syncedMessage_changes {keys : List SyncMessageKeyEntry} {m : MessageDocument}
    (changed : syncedMessage (db.ownConversationIds user.val) source.val target.val (lastByMessage keys) m ≠ m) :
    Eligible db user source m ∧ ∃ k ∈ keys, EcmaText.trim k.messageId = m.id ∧
      syncedMessage (db.ownConversationIds user.val) source.val target.val (lastByMessage keys) m =
        m.setKeyFor target.val k.encryptedMessageKey := by
  cases eligible : Database.canSync (db.ownConversationIds user.val) source.val m with
  | false => exact absurd (syncedMessage_of_not_eligible eligible) changed
  | true =>
    rw [syncedMessage_of_eligible eligible] at changed ⊢
    refine ⟨(eligible_iff db user source m).mp eligible, ?_⟩
    cases uploaded : OrderedMap.get (lastByMessage keys) m.id with
    | none =>
      rw [uploaded] at changed
      exact absurd rfl changed
    | some key =>
      obtain ⟨k, listed, named, rfl⟩ := mem_of_uploaded uploaded
      exact ⟨k, listed, named, rfl⟩

end Contract

section Witness

open UserId (alice)

theorem phone_valid : isRegisteredDeviceIdString "phone" = true := by decide

def phone : WireDeviceId := ⟨"phone", phone_valid⟩

theorem laptop_valid : isRegisteredDeviceIdString "laptop" = true := by decide

def laptop : WireDeviceId := ⟨"laptop", laptop_valid⟩

def deviceRow (deviceId : WireDeviceId) : UserPublicKeyDocument where
  userId := "alice"
  deviceId := deviceId.val
  publicKey := "spki"
  deviceLabel := none
  lastSeenAt := none
  createdAt := 1
  updatedAt := 1
  keyVersion := some 1

def storedMessage : MessageDocument where
  id := "m"
  conversationId := "c"
  senderId := "bob"
  body := some "cipher"
  mediaKey := none
  encryptedMessageKeys := some (Record.ofList [("phone", "wrap")])
  iv := .value "iv"
  algorithm := .value "hybrid"
  createdAt := 2

def aliceStore : Database where
  conversations := [⟨"c", none, ["alice", "bob"], false, 1, 1, none⟩]
  messages := [storedMessage]
  userDevicePublicKeys := [deviceRow phone, deviceRow laptop]

/-- Two entries for one message, the first with a padded id, and one for a message that is not there. -/
def uploaded : List SyncMessageKeyEntry := [⟨" m ", "first"⟩, ⟨"m", "last"⟩, ⟨"gone", "key"⟩]

theorem aliceStore_wellFormed : aliceStore.WellFormed := ⟨by decide, by decide⟩

end Witness

end MessagingSystem.Guarantees.KeyBatches

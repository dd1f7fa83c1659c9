import MessagingSystem.Protocol.ServerRequests

/-!
# Isolation of the wrapped keys

A map slot is named by a client-chosen device id, while the directory is unique
per `(userId, deviceId)` only. A batch upload checks that its target is one of
the caller's devices; when the other participant has the same id registered,
the upload replaces that participant's entry.
-/
namespace MessagingSystem.Guarantees.DeviceKeyIsolation
open Foundation Source.Server Protocol

/-- `v` takes part in the conversation. -/
def Participates (db : Database) (v conversationId : String) : Prop :=
  ∃ conv ∈ db.conversations, conv.id = conversationId ∧ v ∈ conv.participantIds

/-- The slot of `doc` that `deviceId` names belongs to a participant other than `userId`. -/
def ForeignSlot (db : Database) (userId : String) (doc : MessageDocument) (deviceId : String) :
    Prop :=
  ∃ v, v ≠ userId ∧ Participates db v doc.conversationId ∧ (db.findDeviceRow v deviceId).isSome

/-- Every stored message keeps the entries of other participants' devices. -/
def ForeignEntriesKept (userId : String) (db db' : Database) : Prop :=
  ∀ doc ∈ db.messages, ∃ doc' ∈ db'.messages, doc'.id = doc.id ∧
    ∀ deviceId key, ForeignSlot db userId doc deviceId →
      doc.keyFor deviceId = some key → doc'.keyFor deviceId = some key

/-- Nothing changes but map slots of the user's own devices. -/
def OnlyOwnSlotsChanged (userId : String) (db db' : Database) : Prop :=
  ∃ update : MessageDocument → MessageDocument,
    db' = db.setMessages (db.messages.map update) ∧
    ∀ doc, { update doc with encryptedMessageKeys := doc.encryptedMessageKeys } = doc ∧
      ∀ deviceId, (update doc).keyFor deviceId ≠ doc.keyFor deviceId →
        (db.findDeviceRow userId deviceId).isSome

/-- The isolation contract of one request. -/
def Isolated (t : Transition Database ServerRequest) : Prop :=
  ForeignEntriesKept t.label.user.val t.source t.target ∧
  match t.label with
  | .applyBatchSyncMessageKeys user .. => OnlyOwnSlotsChanged user.val t.source t.target
  | _ => True

/-- A batch upload that passes the directory checks brings no new key for a
slot that another participant's device owns as well and that is in use. -/
def NoSharedTarget (t : Transition Database ServerRequest) : Prop :=
  match t.label with
  | .applyBatchSyncMessageKeys user source target keys =>
      t.source.bothRegistered user.val source.val target.val = true →
      ∀ doc ∈ t.source.messages,
        Database.canSync (t.source.ownConversationIds user.val) source.val doc = true →
        ForeignSlot t.source user.val doc target.val →
        ∀ held uploaded, doc.keyFor target.val = some held →
          OrderedMap.get (lastByMessage keys) doc.id = some uploaded → held = uploaded
  | _ => True

section Requests

theorem foreignEntriesKept_of_messages {userId : String} {db db' : Database}
    (kept : ∀ doc ∈ db.messages, doc ∈ db'.messages) : ForeignEntriesKept userId db db' :=
  fun doc member => ⟨doc, kept doc member, rfl, fun _ _ _ held => held⟩

/-- Requests that only add messages keep all entries. -/
theorem foreignEntriesKept_of_addsOnly {α : Type} {p : ServerProgram α}
    (adds : Program.Forall ServerCommand.AddsOnly p) (userId : String) (db : Database) :
    ForeignEntriesKept userId db (ServerProgram.exec p db).2 :=
  foreignEntriesKept_of_messages fun _ member => ServerProgram.exec_keeps_message adds member

/-- The slots a batch upload may write in a message. -/
theorem keyFor_syncedMessage (conversationIds : List String) (source target : String)
    (entries : List (String × String)) (doc : MessageDocument) (deviceId : String) :
    (syncedMessage conversationIds source target entries doc).keyFor deviceId =
      if deviceId = target ∧ Database.canSync conversationIds source doc = true then
        (OrderedMap.get entries doc.id).or (doc.keyFor deviceId)
      else doc.keyFor deviceId := by
  unfold syncedMessage
  cases eligible : Database.canSync conversationIds source doc with
  | false => simp
  | true =>
    cases uploaded : OrderedMap.get entries doc.id with
    | none => simp
    | some key =>
      simp only [if_true, and_true, MessageDocument.keyFor_setKeyFor]
      split <;> simp

theorem syncedMessage_frame (conversationIds : List String) (source target : String)
    (entries : List (String × String)) (doc : MessageDocument) :
    { syncedMessage conversationIds source target entries doc with
      encryptedMessageKeys := doc.encryptedMessageKeys } = doc := by
  unfold syncedMessage
  split
  · split <;> rfl
  · rfl

/-- A batch upload writes the slot its user registered, and no other. -/
theorem batchSynced_onlyOwnSlots (db : Database) (userId source target : String)
    (keys : List SyncMessageKeyEntry) :
    OnlyOwnSlotsChanged userId db (db.batchSynced userId source target keys) := by
  unfold Database.batchSynced
  split
  · rename_i both
    refine ⟨_, rfl, fun doc => ⟨syncedMessage_frame _ _ _ _ doc, fun deviceId changed => ?_⟩⟩
    rw [keyFor_syncedMessage] at changed
    split at changed
    · rename_i slot
      obtain ⟨rfl, -⟩ := slot
      exact (Bool.and_eq_true _ _ ▸ both).1
    · exact absurd rfl changed
  · exact ⟨id, by simp [Database.setMessages], fun doc => ⟨rfl, fun _ changed => absurd rfl changed⟩⟩

/-- A batch upload keeps the foreign entries exactly when it brings no new key
for a shared slot. -/
theorem batchSynced_foreign_iff {db : Database} (wf : db.WellFormed) (user : UserId)
    (source target : WireDeviceId) (keys : List SyncMessageKeyEntry) (db' : Database) :
    NoSharedTarget ⟨db, .applyBatchSyncMessageKeys user source target keys, db'⟩ ↔
      ForeignEntriesKept user.val db (db.batchSynced user.val source.val target.val keys) := by
  unfold NoSharedTarget Database.batchSynced
  dsimp only
  cases both : db.bothRegistered user.val source.val target.val with
  | false => exact iff_of_true (by simp) (foreignEntriesKept_of_messages fun doc member => by simpa)
  | true =>
    simp only [forall_true_left, if_true, ForeignEntriesKept, Database.setMessages]
    constructor
    · intro noShared doc member
      refine ⟨_, List.mem_map_of_mem member, syncedMessage_id _ _ _ _ doc, ?_⟩
      intro deviceId key foreign held
      rw [keyFor_syncedMessage]
      split
      · rename_i slot
        obtain ⟨rfl, eligible⟩ := slot
        cases uploaded : OrderedMap.get (lastByMessage keys) doc.id with
        | none => simpa using held
        | some fresh =>
          have same := noShared doc member eligible foreign key fresh held uploaded
          simp [same]
      · exact held
    · intro kept doc member eligible foreign held uploaded entry upload
      obtain ⟨doc', member', same, entries⟩ := kept doc member
      have written : doc' = syncedMessage (db.ownConversationIds user.val) source.val target.val
          (lastByMessage keys) doc := by
        obtain ⟨origin, originMember, rfl⟩ := List.mem_map.mp member'
        rw [syncedMessage_id] at same
        rw [Collection.eq_of_key wf.messageIds originMember member same]
      have now := entries target.val held foreign entry
      rw [written, keyFor_syncedMessage, if_pos ⟨rfl, eligible⟩, upload] at now
      exact (Option.some.inj now).symm

theorem step_isolated_iff (t : Transition Database ServerRequest) (wf : t.source.WellFormed)
    (taken : serverMachine.step t.source t.label t.target) : NoSharedTarget t ↔ Isolated t := by
  obtain ⟨db, request, db'⟩ := t
  obtain rfl : db' = request.serve db := taken
  simp only [NoSharedTarget, Isolated]
  cases request with
  | registerOrUpdateDevice user publicKey deviceId deviceLabel uuid now =>
    have kept := foreignEntriesKept_of_addsOnly (registerOrUpdateDevice_addsOnly user.val publicKey
      deviceId deviceLabel uuid now) user.val db
    simpa only [and_true, true_iff, ServerRequest.serve, ServerRequest.user] using kept
  | deleteDeviceForUser user deviceId =>
    have kept := foreignEntriesKept_of_addsOnly (deleteDeviceForUser_addsOnly user.val deviceId)
      user.val db
    simpa only [and_true, true_iff, ServerRequest.serve, ServerRequest.user] using kept
  | sendMessageForUser user payload stamp originSocketId =>
    have kept := foreignEntriesKept_of_addsOnly
      (sendMessageForUser_addsOnly user payload stamp originSocketId) user.val db
    simpa only [and_true, true_iff, ServerRequest.serve, ServerRequest.user] using kept
  | applyBatchSyncMessageKeys user source target keys =>
    have served := (applyBatchSyncMessageKeys_exec user source target keys db wf).1
    simp only [ServerRequest.serve, served, ServerRequest.user]
    rw [← batchSynced_foreign_iff wf user source target keys db]
    exact (and_iff_left (batchSynced_onlyOwnSlots db user.val source.val target.val keys)).symm

end Requests

/-- In every run the requests keep the isolation contract exactly when no batch
upload brings a new key for a slot that two participants' devices share. -/
theorem device_keys_isolated_iff (start db : Database)
    (history : List (Transition Database ServerRequest)) (indexes : start.WellFormed)
    (run : serverMachine.Run start history db) :
    (∀ t ∈ history, NoSharedTarget t) ↔ (∀ t ∈ history, Isolated t) :=
  run.forall_iff serverMachine_preserved step_isolated_iff indexes

section Runs

open UserId (alice bob)
open WireDeviceId (deviceA deviceA2)

def deviceB : WireDeviceId := ⟨"dB", by decide⟩

/-- Two registered users and nothing else. -/
def twoUsers : Database := { users := [⟨"alice", false, none⟩, ⟨"bob", false, none⟩] }

def registerDevice (user : UserId) (deviceId : WireDeviceId) : ServerRequest :=
  .registerOrUpdateDevice user "spki" (some deviceId.val) none "uuid" 1

/-- A message of `alice` to `bob`, wrapped for a device of each. -/
def sendToBob : ServerRequest :=
  .sendMessageForUser alice
    { recipientUserId := .value "bob", body := .value "cipher"
      encryptedMessageKeys := some (Record.ofList [("dA", "keyA"), ("dB", "keyB")])
      iv := .value "iv", algorithm := .value "hybrid" }
    ⟨"c", "m", 2, 86400⟩ none

theorem twoUsers_wellFormed : twoUsers.WellFormed := ⟨List.nodup_nil, List.nodup_nil⟩

/-- The requests, served one after another. -/
def serveAll (requests : List ServerRequest) :
    Option (List (Transition Database ServerRequest) × Database) :=
  Machine.trace (fun db request => some (request.serve db)) twoUsers requests

theorem serveAll_run {requests : List ServerRequest} {db : Database}
    {history : List (Transition Database ServerRequest)}
    (served : serveAll requests = some (history, db)) : serverMachine.Run twoUsers history db :=
  Machine.trace_run _ serverMachine_serve served

/-- `alice` approves her second device: `bob`'s entry stays. -/
theorem device_keys_isolated_own_device :
    ∃ history db, serverMachine.Run twoUsers history db ∧ (∀ t ∈ history, Isolated t) ∧
      db.messages.map (fun m => (m.keyFor "dB", m.keyFor "dA2")) =
        [(some "keyB", some "keyA2")] := by
  let requests := [registerDevice bob deviceB, registerDevice alice deviceA, sendToBob,
    registerDevice alice deviceA2,
    .applyBatchSyncMessageKeys alice deviceA deviceA2 [⟨"m", "keyA2"⟩]]
  let db := requests.foldl (fun db request => request.serve db) twoUsers
  have served : ∃ history, serveAll requests = some (history, db) := ⟨_, rfl⟩
  obtain ⟨history, served⟩ := served
  have unused : ∀ doc ∈ ((requests.take 4).foldl (fun db request => request.serve db)
      twoUsers).messages, doc.keyFor deviceA2.val = none := by decide
  have run := serveAll_run served
  refine ⟨history, db, run,
    (device_keys_isolated_iff twoUsers db history twoUsers_wellFormed run).mp ?_, by decide⟩
  obtain rfl := (Prod.ext_iff.mp (Option.some.inj served)).1
  simp only [List.mem_cons, List.not_mem_nil, or_false]
  rintro t (rfl | rfl | rfl | rfl | rfl)
  · exact trivial
  · exact trivial
  · exact trivial
  · exact trivial
  · intro _ doc member _ _ held uploaded entry
    rw [unused doc member] at entry
    cases entry

/-- `alice` registers `bob`'s device id for herself and uploads a key for it:
`bob`'s entry of the stored message is replaced. -/
theorem device_key_replaced :
    ¬ ∀ (start db : Database) (history : List (Transition Database ServerRequest)),
      serverMachine.init start → serverMachine.Run start history db →
      ∀ t ∈ history, Isolated t := by
  intro claim
  let requests := [registerDevice bob deviceB, registerDevice alice deviceA, sendToBob,
    registerDevice alice deviceB]
  let stored := requests.foldl (fun db request => request.serve db) twoUsers
  let upload := ServerRequest.applyBatchSyncMessageKeys alice deviceA deviceB [⟨"m", "forged"⟩]
  have served : ∃ history, serveAll requests = some (history, stored) := ⟨_, rfl⟩
  obtain ⟨history, served⟩ := served
  have run := Machine.Run.snoc (serveAll_run served)
    (rfl : serverMachine.step stored upload (upload.serve stored))
  have isolated := claim twoUsers _ _ twoUsers_wellFormed run _
    (List.mem_append_right _ (List.mem_singleton_self _))
  have kept := isolated.1
  have entries : stored.messages.map (fun m => (m.keyFor "dB", m.conversationId)) =
      [(some "keyB", "c")] := by decide
  have replaced : ∀ m ∈ (upload.serve stored).messages, m.keyFor "dB" = some "forged" := by decide
  have shared : (stored.findDeviceRow "bob" "dB").isSome = true := by decide
  obtain ⟨doc, member, entry⟩ := List.mem_map.mp (entries ▸ List.mem_singleton_self _)
  have inThread : doc.conversationId = "c" := (Prod.ext_iff.mp entry).2
  have participates : Participates stored "bob" doc.conversationId := by
    rw [inThread]
    exact (by decide : ∃ conv ∈ stored.conversations, conv.id = "c" ∧ "bob" ∈ conv.participantIds)
  obtain ⟨doc', member', -, same⟩ := kept doc member
  have still := same "dB" "keyB" ⟨"bob", by decide, participates, shared⟩ (Prod.ext_iff.mp entry).1
  rw [replaced doc' member'] at still
  exact absurd still (by decide)

end Runs

end MessagingSystem.Guarantees.DeviceKeyIsolation

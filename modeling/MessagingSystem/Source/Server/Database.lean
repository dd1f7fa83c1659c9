import Mathlib.Data.List.Sort
import Mathlib.Data.Prod.Lex
import Mathlib.Data.String.Basic
import MessagingSystem.Foundation.Collection
import MessagingSystem.Foundation.EcmaText
import MessagingSystem.Foundation.Json
import MessagingSystem.Foundation.Program
import MessagingSystem.Foundation.Record

/-!
# The store of the messaging service

The documents of the collections the service reads and writes, and one command
for each MongoDB call it makes. `exec` answers a command atomically, as a
single-document MongoDB operation; the broker's outbox is part of the state.
Dates are milliseconds since the epoch.
-/
namespace MessagingSystem.Source.Server
open Foundation

/-- `AppError`: the code, status and text of an error response. -/
structure AppError where
  code : String
  statusCode : Nat
  message : String
  deriving DecidableEq

structure UserDocument where
  id : String
  isGuest : Bool
  displayName : Option String
  deriving DecidableEq

structure ConversationDocument where
  id : String
  directPairKey : Option String
  participantIds : List String
  isGroup : Bool
  createdAt : Nat
  updatedAt : Nat
  guestDataExpiresAt : Option Nat := none
  deriving DecidableEq

structure MessageReceipts where
  deliveredAt : Option Nat := none
  seenAt : Option Nat := none
  deriving DecidableEq

structure MessageDocument where
  id : String
  conversationId : String
  senderId : String
  body : Option String
  mediaKey : Option String
  encryptedMessageKeys : Option (Record String)
  iv : Nullable String
  algorithm : Nullable String
  createdAt : Nat
  receiptsByUserId : Record MessageReceipts := ∅
  guestDataExpiresAt : Option Nat := none
  deriving DecidableEq

structure UserPublicKeyDocument where
  userId : String
  deviceId : String
  publicKey : String
  deviceLabel : Option String
  lastSeenAt : Option Nat
  createdAt : Nat
  updatedAt : Nat
  keyVersion : Option Nat
  deriving DecidableEq

structure ConversationReadDocument where
  userId : String
  conversationId : String
  lastReadMessageId : String
  lastReadAt : Nat
  updatedAt : Nat
  deriving DecidableEq

/-- The settings in force: the stored ones, and those of the environment where none is stored. -/
structure EffectiveRuntimeConfig where
  emailVerificationRequired : Bool := false
  guestSessionsEnabled : Bool := true
  guestDataTtlEnabled : Bool := true
  deriving DecidableEq

structure Database where
  runtimeConfig : EffectiveRuntimeConfig := {}
  users : List UserDocument := []
  conversations : List ConversationDocument := []
  messages : List MessageDocument := []
  userDevicePublicKeys : List UserPublicKeyDocument := []
  conversationReads : List ConversationReadDocument := []
  /-- Messages handed to the broker, oldest first: routing key and body. -/
  published : List (String × Json) := []

namespace MessageDocument

/-- `encryptedMessageKeys[deviceId]`. -/
def keyFor (m : MessageDocument) (deviceId : String) : Option String :=
  m.encryptedMessageKeys.bind fun keys => keys.get deviceId

/-- `{ $exists: true, $nin: [null, ''] }` on the path of a device. -/
def hasKeyFor (m : MessageDocument) (deviceId : String) : Bool :=
  match m.keyFor deviceId with
  | some key => key ≠ ""
  | none => false

/-- `$set: { ['encryptedMessageKeys.<deviceId>']: key }`, for an id without dots. -/
def setKeyFor (deviceId key : String) (m : MessageDocument) : MessageDocument :=
  { m with encryptedMessageKeys := some ((m.encryptedMessageKeys.getD ∅).set deviceId key) }

/-- The thread order `(createdAt, id)`. -/
def position (m : MessageDocument) : Nat ×ₗ String := toLex (m.createdAt, m.id)

@[simp] theorem setKeyFor_id (deviceId key : String) (m : MessageDocument) :
    (m.setKeyFor deviceId key).id = m.id := rfl

@[simp] theorem setKeyFor_conversationId (deviceId key : String) (m : MessageDocument) :
    (m.setKeyFor deviceId key).conversationId = m.conversationId := rfl

theorem keyFor_setKeyFor (deviceId key other : String) (m : MessageDocument) :
    (m.setKeyFor deviceId key).keyFor other =
      if other = deviceId then some key else m.keyFor other := by
  unfold keyFor setKeyFor
  cases m.encryptedMessageKeys with
  | none => by_cases h : other = deviceId <;> simp [h]
  | some keys => by_cases h : other = deviceId <;> simp [h]

end MessageDocument

/-- The fields a device update sets; `none` leaves a field as it is. -/
structure DevicePatch where
  publicKey : Option String := none
  keyVersion : Option Nat := none
  deviceLabel : Option (Option String) := none
  updatedAt : Option Nat := none
  lastSeenAt : Nat

def DevicePatch.apply (patch : DevicePatch) (doc : UserPublicKeyDocument) : UserPublicKeyDocument :=
  { doc with
    publicKey := patch.publicKey.getD doc.publicKey
    keyVersion := patch.keyVersion.or doc.keyVersion
    deviceLabel := patch.deviceLabel.getD doc.deviceLabel
    updatedAt := patch.updatedAt.getD doc.updatedAt
    lastSeenAt := some patch.lastSeenAt }

inductive ReceiptKind where
  | delivered | seen
  deriving DecidableEq

def MessageReceipts.time (r : MessageReceipts) : ReceiptKind → Option Nat
  | .delivered => r.deliveredAt
  | .seen => r.seenAt

def MessageReceipts.setTime (r : MessageReceipts) (kind : ReceiptKind) (at' : Nat) :
    MessageReceipts :=
  match kind with
  | .delivered => { r with deliveredAt := some at' }
  | .seen => { r with seenAt := some at' }

/-- One MongoDB call, or one `publishMessage`. -/
inductive ServerCommand : Type → Type where
  | getEffectiveRuntimeConfig : ServerCommand EffectiveRuntimeConfig
  | findUser (id : String) : ServerCommand (Option UserDocument)
  | findConversation (id : String) : ServerCommand (Option ConversationDocument)
  | findDirectConversation (pairKey : String) : ServerCommand (Option ConversationDocument)
  | participantConversationIds (userId : String) : ServerCommand (List String)
  | insertConversation (doc : ConversationDocument) : ServerCommand Bool
  | touchConversation (id : String) (now : Nat) : ServerCommand Unit
  | findMessage (id : String) : ServerCommand (Option MessageDocument)
  | insertMessage (doc : MessageDocument) : ServerCommand Bool
  | setMessageKey (messageId : String) (conversationIds : List String)
      (sourceDeviceId targetDeviceId key : String) : ServerCommand Nat
  | listMessageKeys (conversationIds : List String) (deviceId : String)
      (after : Option (Nat ×ₗ String)) (limit : Nat) : ServerCommand (List MessageDocument)
  | setReceipt (kind : ReceiptKind) (messageId userId : String) (at' : Nat) : ServerCommand Unit
  | findDevice (userId deviceId : String) : ServerCommand (Option UserPublicKeyDocument)
  | listDevices (userId : String) : ServerCommand (List UserPublicKeyDocument)
  | insertDevice (doc : UserPublicKeyDocument) : ServerCommand Bool
  | updateDevice (userId deviceId : String) (patch : DevicePatch) : ServerCommand Unit
  | deleteDevice (userId deviceId : String) : ServerCommand Nat
  | upsertConversationRead (userId conversationId lastReadMessageId : String)
      (lastReadAt now : Nat) : ServerCommand Bool
  | findConversationRead (userId conversationId : String) :
      ServerCommand (Option ConversationReadDocument)
  | publish (routingKey : String) (body : Json) : ServerCommand Unit

namespace Database

/-- The filter of a device row. -/
def isDevice (userId deviceId : String) (d : UserPublicKeyDocument) : Bool :=
  d.userId = userId && d.deviceId = deviceId

def isReadOf (userId conversationId : String) (r : ConversationReadDocument) : Bool :=
  r.userId = userId && r.conversationId = conversationId

/-- The filter of the conditional key update. -/
def canSync (conversationIds : List String) (sourceDeviceId : String) (m : MessageDocument) :
    Bool :=
  conversationIds.contains m.conversationId && m.hasKeyFor sourceDeviceId

/-- The filter of a page of message keys. -/
def inKeyPage (conversationIds : List String) (deviceId : String)
    (after : Option (Nat ×ₗ String)) (m : MessageDocument) : Bool :=
  canSync conversationIds deviceId m &&
    match after with
    | some bound => decide (bound < m.position)
    | none => true

/-- The conversations of a participant. -/
def conversationIdsOf (db : Database) (userId : String) : List String :=
  (db.conversations.filter fun c => c.participantIds.contains userId).map fun c => c.id

def findDeviceRow (db : Database) (userId deviceId : String) : Option UserPublicKeyDocument :=
  db.userDevicePublicKeys.find? (isDevice userId deviceId)

def findMessageRow (db : Database) (id : String) : Option MessageDocument :=
  db.messages.find? fun m => m.id = id

def findReadRow (db : Database) (userId conversationId : String) :
    Option ConversationReadDocument :=
  db.conversationReads.find? (isReadOf userId conversationId)

/-- The row an upsert leaves for an existing one. -/
def advanceRead (lastReadMessageId : String) (lastReadAt now : Nat) (r : ConversationReadDocument) :
    ConversationReadDocument :=
  { r with lastReadMessageId := lastReadMessageId, lastReadAt := lastReadAt, updatedAt := now }

/-- The `conversation_reads` collection after an upsert. -/
def upsertRead (reads : List ConversationReadDocument)
    (userId conversationId lastReadMessageId : String) (lastReadAt now : Nat) :
    List ConversationReadDocument :=
  if reads.any (isReadOf userId conversationId) then
    Collection.updateFirst (isReadOf userId conversationId)
      (advanceRead lastReadMessageId lastReadAt now) reads
  else reads ++ [⟨userId, conversationId, lastReadMessageId, lastReadAt, now⟩]

end Database

namespace Database

def setMessages (db : Database) (messages : List MessageDocument) : Database :=
  { db with messages := messages }

def setConversations (db : Database) (conversations : List ConversationDocument) : Database :=
  { db with conversations := conversations }

def setDevices (db : Database) (devices : List UserPublicKeyDocument) : Database :=
  { db with userDevicePublicKeys := devices }

def setReads (db : Database) (reads : List ConversationReadDocument) : Database :=
  { db with conversationReads := reads }

/-- `insertOne` under the unique indexes of `conversations`. -/
def conflictsWith (doc c : ConversationDocument) : Bool :=
  c.id = doc.id || (!c.isGroup && !doc.isGroup && c.directPairKey.isSome &&
    c.directPairKey = doc.directPairKey)

end Database

/-- `$set` of one receipt time. -/
def MessageDocument.setReceipt (kind : ReceiptKind) (userId : String) (at' : Nat)
    (m : MessageDocument) : MessageDocument :=
  let receipts := (m.receiptsByUserId.get userId).getD {}
  { m with receiptsByUserId := m.receiptsByUserId.set userId (receipts.setTime kind at') }

/-- The atomic answer to a command. -/
def ServerCommand.exec : {β : Type} → ServerCommand β → Database → β × Database
  | _, .getEffectiveRuntimeConfig, db => (db.runtimeConfig, db)
  | _, .findUser id, db => (db.users.find? fun u => u.id = id, db)
  | _, .findConversation id, db => (db.conversations.find? fun c => c.id = id, db)
  | _, .findDirectConversation pairKey, db =>
      (db.conversations.find? fun c => c.directPairKey = some pairKey && !c.isGroup, db)
  | _, .participantConversationIds userId, db => (db.conversationIdsOf userId, db)
  | _, .insertConversation doc, db =>
      if db.conversations.any (Database.conflictsWith doc) then (false, db)
      else (true, db.setConversations (db.conversations ++ [doc]))
  | _, .touchConversation id now, db =>
      ((), db.setConversations (Collection.updateFirst (fun c => c.id = id)
        (fun c => { c with updatedAt := now }) db.conversations))
  | _, .findMessage id, db => (db.findMessageRow id, db)
  | _, .insertMessage doc, db =>
      match Collection.insertUnique MessageDocument.id doc db.messages with
      | some messages => (true, db.setMessages messages)
      | none => (false, db)
  | _, .setMessageKey messageId conversationIds source target key, db =>
      let filter := fun m : MessageDocument =>
        m.id = messageId && Database.canSync conversationIds source m
      (if db.messages.any filter then 1 else 0,
        db.setMessages (Collection.updateFirst filter (MessageDocument.setKeyFor target key)
          db.messages))
  | _, .listMessageKeys conversationIds deviceId after limit, db =>
      (((db.messages.filter (Database.inKeyPage conversationIds deviceId after)).insertionSort
        fun a b => a.position ≤ b.position).take limit, db)
  | _, .setReceipt kind messageId userId at', db =>
      ((), db.setMessages (Collection.updateFirst (fun m => m.id = messageId)
        (MessageDocument.setReceipt kind userId at') db.messages))
  | _, .findDevice userId deviceId, db => (db.findDeviceRow userId deviceId, db)
  | _, .listDevices userId, db =>
      ((db.userDevicePublicKeys.filter fun d => d.userId = userId).insertionSort
        fun a b => b.updatedAt ≤ a.updatedAt, db)
  | _, .insertDevice doc, db =>
      match Collection.insertUnique (fun d => (d.userId, d.deviceId)) doc
          db.userDevicePublicKeys with
      | some devices => (true, db.setDevices devices)
      | none => (false, db)
  | _, .updateDevice userId deviceId patch, db =>
      ((), db.setDevices (Collection.updateFirst (Database.isDevice userId deviceId) patch.apply
        db.userDevicePublicKeys))
  | _, .deleteDevice userId deviceId, db =>
      (if db.userDevicePublicKeys.any (Database.isDevice userId deviceId) then 1 else 0,
        db.setDevices (db.userDevicePublicKeys.eraseP (Database.isDevice userId deviceId)))
  | _, .upsertConversationRead userId conversationId messageId at' now, db =>
      let reads := Database.upsertRead db.conversationReads userId conversationId messageId at' now
      (decide (reads ≠ db.conversationReads), db.setReads reads)
  | _, .findConversationRead userId conversationId, db =>
      (db.findReadRow userId conversationId, db)
  | _, .publish routingKey body, db =>
      ((), { db with published := db.published ++ [(routingKey, body)] })

/-- A function of the service. -/
abbrev ServerProgram (α : Type) := Program ServerCommand AppError α

/-- The function's uninterrupted run. -/
def ServerProgram.exec {α : Type} (p : ServerProgram α) (db : Database) :
    Except AppError α × Database := Program.run ServerCommand.exec p db

end MessagingSystem.Source.Server

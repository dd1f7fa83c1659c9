import MessagingSystem.Foundation.OrderedMap
import MessagingSystem.Source.Server.Conversations
import MessagingSystem.Source.Server.DeviceDirectory

/-!
# Device key sync

`syncMessageKeys.ts`: the paginated listing of the wrapped keys of one device
and the batch upload of wrapped keys for another one.
-/
namespace MessagingSystem.Source.Server
open Foundation

def MAX_LIST_LIMIT : Nat := 100

def DEFAULT_LIST_LIMIT : Nat := 20

structure SyncMessageKeyEntry where
  messageId : String
  encryptedMessageKey : String
  deriving DecidableEq

structure SyncMessageKeysPage where
  items : List SyncMessageKeyEntry
  hasMore : Bool
  nextAfterMessageId : Option String
  deriving DecidableEq

structure BatchKeyUpload where
  applied : Nat
  skipped : Nat
  deriving DecidableEq

def assertUserParticipantInConversation (userId conversationId : String) : ServerProgram Unit := do
  let doc ← .perform (.findConversation (EcmaText.trim conversationId))
  .require ((doc.map fun c => c.participantIds.contains userId).getD false)
    ⟨"FORBIDDEN", 403, "Not allowed to access this conversation"⟩

/-- The exclusive lower bound a cursor names, after its checks. -/
def syncAnchor (userId deviceId : String) (afterMessageId : Option String) :
    ServerProgram (Option (Nat ×ₗ String)) :=
  match afterMessageId with
  | none => pure none
  | some "" => pure none
  | some afterMessageId => do
      let found ← findMessageById afterMessageId
      let anchor ← .orFail found ⟨"NOT_FOUND", 404, "afterMessageId not found"⟩
      assertUserParticipantInConversation userId anchor.conversationId
      .require (anchor.hasKeyFor deviceId)
        ⟨"INVALID_REQUEST", 400, "Cursor message has no wrapped key for this device"⟩
      pure (some anchor.position)

/-- The response of a page from the documents fetched, one more than the cap at most. -/
def syncPage (deviceId : String) (cap : Nat) (docs : List MessageDocument) : SyncMessageKeysPage :=
  let hasMore := decide (cap < docs.length)
  let slice := if hasMore then docs.take cap else docs
  let items := slice.filterMap fun doc =>
    (doc.keyFor deviceId).map fun key => (⟨doc.id, key⟩ : SyncMessageKeyEntry)
  { items, hasMore
    nextAfterMessageId :=
      if hasMore then items.getLast?.map fun last => last.messageId else none }

def listSyncMessageKeysForUserDevice (userId deviceId : String) (afterMessageId : Option String)
    (limit : Nat) : ServerProgram SyncMessageKeysPage := do
  let userId := EcmaText.trim userId
  let deviceId := EcmaText.trim deviceId
  .require (userId ≠ "" && deviceId ≠ "")
    ⟨"INVALID_REQUEST", 400, "userId and deviceId are required"⟩
  let deviceRow ← findUserDeviceRow userId deviceId
  .require deviceRow.isSome ⟨"FORBIDDEN", 403, "deviceId is not a registered device for this user"⟩
  let conversationIds ← findConversationIdsForParticipant userId
  if conversationIds = [] then pure ⟨[], false, none⟩
  else do
    let cap := min (max 1 limit) MAX_LIST_LIMIT
    let anchor ← syncAnchor userId deviceId afterMessageId
    let docs ← .perform (.listMessageKeys conversationIds deviceId anchor (cap + 1))
    pure (syncPage deviceId cap docs)

/-- `lastByMessage`: the last uploaded key of each message, under the trimmed id. -/
def lastByMessage (keys : List SyncMessageKeyEntry) : List (String × String) :=
  OrderedMap.ofEntries (keys.map fun k => (EcmaText.trim k.messageId, k.encryptedMessageKey))

/-- The conditional update of one message after another. -/
def uploadKeys (conversationIds : List String) (sourceDeviceId targetDeviceId : String) :
    List (String × String) → BatchKeyUpload → ServerProgram BatchKeyUpload
  | [], counts => pure counts
  | (messageId, key) :: rest, counts => do
      let matchedCount ←
        .perform (.setMessageKey messageId conversationIds sourceDeviceId targetDeviceId key)
      let counts : BatchKeyUpload :=
        if matchedCount = 1 then { counts with applied := counts.applied + 1 }
        else { counts with skipped := counts.skipped + 1 }
      uploadKeys conversationIds sourceDeviceId targetDeviceId rest counts

def applyBatchSyncMessageKeys (userId sourceDeviceId targetDeviceId : String)
    (keys : List SyncMessageKeyEntry) : ServerProgram BatchKeyUpload := do
  let userId := EcmaText.trim userId
  let sourceDeviceId := EcmaText.trim sourceDeviceId
  let targetDeviceId := EcmaText.trim targetDeviceId
  .require (userId ≠ "" && sourceDeviceId ≠ "" && targetDeviceId ≠ "")
    ⟨"INVALID_REQUEST", 400, "Missing user or device id"⟩
  let target ← findUserDeviceRow userId targetDeviceId
  .require target.isSome
    ⟨"FORBIDDEN", 403, "targetDeviceId is not a registered device for this user"⟩
  let source ← findUserDeviceRow userId sourceDeviceId
  .require source.isSome
    ⟨"FORBIDDEN", 403, "sourceDeviceId is not a registered device for this user"⟩
  let conversationIds ← findConversationIdsForParticipant userId
  if conversationIds = [] then pure ⟨0, keys.length⟩
  else uploadKeys conversationIds sourceDeviceId targetDeviceId (lastByMessage keys) ⟨0, 0⟩

end MessagingSystem.Source.Server

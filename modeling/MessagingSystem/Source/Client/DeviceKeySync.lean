import MessagingSystem.Source.Client.MessageKeyCrypto
import MessagingSystem.Source.Server.SyncMessageKeys

/-!
# Approval of a key sync

`executeApproveDeviceKeySync` in `useDeviceKeySync.ts`: the trusted device reads
the wrapped keys of its own device id page by page, wraps each message key for the
new device and uploads the page. The service answers each request; the refresh
that binds the session to the device takes place before the first page.
-/
namespace MessagingSystem.Source.Client
open Foundation Server

/-- The approving session and the device it approves. -/
structure SyncApproval where
  user : UserId
  source : WireDeviceId
  target : WireDeviceId
  newDevicePublicKey : String
  pageLimit : Nat

/-- How an approval ends; `unfinished` is one whose pages were not all asked for. -/
inductive SyncEnd where
  | completed
  | threw (e : CryptoError)
  | rejected (e : AppError)
  | unfinished
  deriving DecidableEq

/-- The store of the service, the keys uploaded so far and how many of them it applied. -/
structure SyncProgress where
  db : Database
  posted : List SyncMessageKeyEntry := []
  totalPosted : Nat := 0

/-- The cursor of the next page. -/
def nextCursor (page : SyncMessageKeysPage) : Option String :=
  page.nextAfterMessageId.bind fun id => if EcmaText.trim id = "" then none else some (EcmaText.trim id)

section Approve

variable {PublicKey PrivateKey Seed : Type} (crypto : WebCrypto PublicKey PrivateKey Seed)

/-- The loop over the entries of a page: each key is unwrapped and wrapped for the new device. -/
def rewrapEntries (privateKey : PrivateKey) (newDevicePublicKey : String) (seeds : Nat → Seed) :
    Nat → List SyncMessageKeyEntry → Except CryptoError (List SyncMessageKeyEntry)
  | _, [] => .ok []
  | drawn, entry :: rest => do
      let messageKey ← unwrapMessageKey crypto entry.encryptedMessageKey privateKey
      let newEncryptedKey ← wrapMessageKey crypto messageKey newDevicePublicKey (seeds drawn)
      let keys ← rewrapEntries privateKey newDevicePublicKey seeds (drawn + 1) rest
      .ok (⟨entry.messageId, newEncryptedKey⟩ :: keys)

/-- The loop over the pages, of which at most a number are asked for. -/
def copyPages (a : SyncApproval) (privateKey : PrivateKey) (seeds : Nat → Seed) :
    Nat → Option String → SyncProgress → SyncEnd × SyncProgress
  | 0, _, s => (.unfinished, s)
  | pages + 1, afterMessageId, s =>
      match ServerProgram.exec
          (listSyncMessageKeysForUserDevice a.user.val a.source.val afterMessageId a.pageLimit) s.db with
      | (.error e, db) => (.rejected e, { s with db := db })
      | (.ok page, db) =>
          if page.items = [] then (.completed, { s with db := db })
          else
            match rewrapEntries crypto privateKey a.newDevicePublicKey seeds s.posted.length page.items with
            | .error e => (.threw e, { s with db := db })
            | .ok keys =>
                match ServerProgram.exec
                    (applyBatchSyncMessageKeys a.user.val a.source.val a.target.val keys) db with
                | (.error e, db) => (.rejected e, { s with db := db })
                | (.ok res, db) =>
                    let s : SyncProgress := ⟨db, s.posted ++ keys, s.totalPosted + res.applied⟩
                    if page.hasMore then
                      match nextCursor page with
                      | some next => copyPages a privateKey seeds pages (some next) s
                      | none => (.completed, s)
                    else (.completed, s)

/-- `executeApproveDeviceKeySync` of a session that is not blank. -/
def executeApproveDeviceKeySync (a : SyncApproval) (privateKey : Option PrivateKey)
    (refreshToken : Option String) (seeds : Nat → Seed) (pages : Nat) (db : Database) :
    SyncEnd × SyncProgress :=
  let listed := db.userDevicePublicKeys.any fun row => row.userId = a.user.val &&
    EcmaText.trim row.deviceId = a.target.val && EcmaText.trim row.publicKey = a.newDevicePublicKey
  if !listed then
    (.threw (.error "This new device is not listed on your account yet, or its public key does not match GET /users/me/devices. Wait a moment and try again."),
      ⟨db, [], 0⟩)
  else
    match privateKey with
    | none =>
        (.threw (.error "Your encryption private key is not available on this device. You cannot approve sync here."),
          ⟨db, [], 0⟩)
    | some privateKey =>
        if EcmaText.trim (refreshToken.getD "") = "" then
          (.threw (.error "Your session has expired. Sign in again to approve sync."), ⟨db, [], 0⟩)
        else copyPages crypto a privateKey seeds pages none ⟨db, [], 0⟩

end Approve

end MessagingSystem.Source.Client

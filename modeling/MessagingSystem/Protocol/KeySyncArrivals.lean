import MessagingSystem.Source.Client.DeviceKeySync
import MessagingSystem.Source.Server.SyncPages

/-!
# A key sync among other sends

While an approval goes from page to page, other requests of the service store messages
and open threads. The approval is the loop of `executeApproveDeviceKeySync`, with what
arrives before each of its requests.
-/
namespace MessagingSystem.Protocol
open Foundation Source.Server Source.Client

/-- What other requests store between two requests of an approval. -/
structure Arrivals where
  conversations : List ConversationDocument := []
  messages : List MessageDocument := []

def arrive (db : Database) (arrivals : Arrivals) : Database :=
  { db with
    conversations := db.conversations ++ arrivals.conversations
    messages := db.messages ++ arrivals.messages }

theorem arrive_nothing (db : Database) : arrive db {} = db := by
  unfold arrive
  simp only [List.append_nil]

section Approve

variable {PublicKey PrivateKey Seed : Type} (crypto : WebCrypto PublicKey PrivateKey Seed)

/-- The loop over the pages, its requests numbered. -/
def copyPagesAmid (arrivals : Nat → Arrivals) (a : SyncApproval) (privateKey : PrivateKey) (seeds : Nat → Seed) :
    Nat → Nat → Option String → SyncProgress → SyncEnd × SyncProgress
  | 0, _, _, s => (.unfinished, s)
  | pages + 1, requests, afterMessageId, s =>
      match ServerProgram.exec
          (listSyncMessageKeysForUserDevice a.user.val a.source.val afterMessageId a.pageLimit)
          (arrive s.db (arrivals requests)) with
      | (.error e, db) => (.rejected e, { s with db := db })
      | (.ok page, db) =>
          if page.items = [] then (.completed, { s with db := db })
          else
            match rewrapEntries crypto privateKey a.newDevicePublicKey seeds s.posted.length page.items with
            | .error e => (.threw e, { s with db := db })
            | .ok keys =>
                match ServerProgram.exec
                    (applyBatchSyncMessageKeys a.user.val a.source.val a.target.val keys)
                    (arrive db (arrivals (requests + 1))) with
                | (.error e, db) => (.rejected e, { s with db := db })
                | (.ok res, db) =>
                    let s : SyncProgress := ⟨db, s.posted ++ keys, s.totalPosted + res.applied⟩
                    if page.hasMore then
                      match nextCursor page with
                      | some next => copyPagesAmid arrivals a privateKey seeds pages (requests + 2) (some next) s
                      | none => (.completed, s)
                    else (.completed, s)

/-- When nothing arrives it is the loop of the source. -/
theorem copyPagesAmid_nothing (a : SyncApproval) (privateKey : PrivateKey) (seeds : Nat → Seed) (pages requests : Nat)
    (cursor : Option String) (s : SyncProgress) :
    copyPagesAmid crypto (fun _ => {}) a privateKey seeds pages requests cursor s =
      copyPages crypto a privateKey seeds pages cursor s := by
  induction pages generalizing requests cursor s with
  | zero => rfl
  | succ pages ih =>
    unfold copyPagesAmid copyPages
    rw [arrive_nothing]
    generalize ServerProgram.exec
      (listSyncMessageKeysForUserDevice a.user.val a.source.val cursor a.pageLimit) s.db = listed
    obtain ⟨_ | page, db⟩ := listed
    · rfl
    · dsimp only
      by_cases empty : page.items = []
      · rw [if_pos empty, if_pos empty]
      · rw [if_neg empty, if_neg empty]
        cases rewrapEntries crypto privateKey a.newDevicePublicKey seeds s.posted.length page.items with
        | error e => rfl
        | ok keys =>
          dsimp only
          rw [arrive_nothing]
          generalize ServerProgram.exec (applyBatchSyncMessageKeys a.user.val a.source.val a.target.val keys) db = uploaded
          obtain ⟨_ | res, db⟩ := uploaded
          · rfl
          · cases page.hasMore with
            | false => rfl
            | true =>
              cases nextCursor page with
              | none => rfl
              | some next => exact ih _ _ _

/-- `executeApproveDeviceKeySync`, with what arrives before each request of its loop. -/
def executeApproveDeviceKeySyncAmid (arrivals : Nat → Arrivals) (a : SyncApproval) (privateKey : Option PrivateKey)
    (refreshToken : Option String) (seeds : Nat → Seed) (pages : Nat) (db : Database) : SyncEnd × SyncProgress :=
  let listed := db.userDevicePublicKeys.any fun row => row.userId = a.user.val &&
    EcmaText.trim row.deviceId = a.target.val && EcmaText.trim row.publicKey = a.newDevicePublicKey
  if !listed then
    (.threw (.error "This new device is not listed on your account yet, or its public key does not match GET /users/me/devices. Wait a moment and try again."),
      ⟨db, [], 0⟩)
  else
    match privateKey with
    | none =>
        (.threw (.error "Your encryption private key is not available on this device. You cannot approve sync here."),
          ⟨db, [], 0⟩)
    | some privateKey =>
        if EcmaText.trim (refreshToken.getD "") = "" then
          (.threw (.error "Your session has expired. Sign in again to approve sync."), ⟨db, [], 0⟩)
        else copyPagesAmid crypto arrivals a privateKey seeds pages 0 none ⟨db, [], 0⟩

theorem executeApproveDeviceKeySyncAmid_nothing (a : SyncApproval) (privateKey : Option PrivateKey)
    (refreshToken : Option String) (seeds : Nat → Seed) (pages : Nat) (db : Database) :
    executeApproveDeviceKeySyncAmid crypto (fun _ => {}) a privateKey refreshToken seeds pages db =
      executeApproveDeviceKeySync crypto a privateKey refreshToken seeds pages db := by
  unfold executeApproveDeviceKeySyncAmid executeApproveDeviceKeySync
  dsimp only
  split
  · rfl
  · cases privateKey with
    | none => rfl
    | some privateKey => simp only [copyPagesAmid_nothing]

end Approve

end MessagingSystem.Protocol

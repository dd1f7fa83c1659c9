import MessagingSystem.Source.Server.DeviceEffects
import MessagingSystem.Source.Server.SendOutcomes

/-!
# The migration of the legacy key collection

`user_public_keys.collection.ts`: at every start the service copies the rows of
`user_public_keys`, one a user, into the device directory under the id
`default`, where the user has no such row. The legacy collection stays as it is.
-/
namespace MessagingSystem.Source.Server
open Foundation

/-- A document of `user_public_keys`, as the migration reads it. -/
structure LegacyPublicKeyDocument where
  userId : Option String
  publicKey : Option String
  updatedAt : Option Nat := none
  keyVersion : Option Nat := none

/-- The user and the key of a document the migration does not skip. -/
def LegacyPublicKeyDocument.key (doc : LegacyPublicKeyDocument) : Option (String × String) :=
  match doc.userId.map EcmaText.trim, doc.publicKey with
  | some userId, some publicKey =>
      if userId = "" ∨ publicKey = "" then none else some (userId, publicKey)
  | _, _ => none

/-- The row a document becomes. -/
def LegacyPublicKeyDocument.row (doc : LegacyPublicKeyDocument) (userId publicKey : String) (now : Nat) :
    UserPublicKeyDocument :=
  { userId := userId
    deviceId := DEFAULT_SINGLE_DEVICE_ID
    publicKey := publicKey
    deviceLabel := none
    lastSeenAt := none
    createdAt := doc.updatedAt.getD now
    updatedAt := doc.updatedAt.getD now
    keyVersion := some (doc.keyVersion.getD 1) }

/-- One turn of the loop; the answer counts the row it has copied. -/
def migrateLegacyDocument (doc : LegacyPublicKeyDocument) (now : Nat) : ServerProgram Nat :=
  match doc.key with
  | none => pure 0
  | some (userId, publicKey) => do
      let held ← .perform (.findDevice userId DEFAULT_SINGLE_DEVICE_ID)
      if held.isSome then pure 0
      else do
        let inserted ← .perform (.insertDevice (doc.row userId publicKey now))
        .require inserted internalServerError
        pure 1

/-- The loop over the documents `legacy.find({})` yields. -/
def migrateLegacyUserPublicKeysIfNeeded (now : Nat) : List LegacyPublicKeyDocument → ServerProgram Nat
  | [] => pure 0
  | doc :: rest => do
      let migrated ← migrateLegacyDocument doc now
      let more ← migrateLegacyUserPublicKeysIfNeeded now rest
      pure (migrated + more)

/-- What the service runs on the directory when it starts. The unique index is
part of the store already. -/
def ensureUserPublicKeyIndexes (legacy : List LegacyPublicKeyDocument) (now : Nat) : ServerProgram Unit := do
  let _ ← migrateLegacyUserPublicKeysIfNeeded now legacy
  pure ()

section Migration

variable {db : Database}

/-- The user's row under the id `default` would be copied. -/
def Migrates (legacy : List LegacyPublicKeyDocument) (userId deviceId : String) : Prop :=
  deviceId = DEFAULT_SINGLE_DEVICE_ID ∧ ∃ doc ∈ legacy, ∃ publicKey, doc.key = some (userId, publicKey)

theorem migrateLegacyDocument_run (doc : LegacyPublicKeyDocument) (now : Nat) (db : Database) :
    ∃ migrated after, ServerProgram.exec (migrateLegacyDocument doc now) db = (.ok migrated, after) ∧
      ∀ userId deviceId, after.findDeviceRow userId deviceId ≠ none ↔
        db.findDeviceRow userId deviceId ≠ none ∨ Migrates [doc] userId deviceId := by
  unfold migrateLegacyDocument
  cases key : doc.key with
  | none =>
    refine ⟨0, db, rfl, fun userId deviceId => ?_⟩
    simp [Migrates, key]
  | some pair =>
    obtain ⟨user, publicKey⟩ := pair
    have migrates : ∀ userId deviceId, Migrates [doc] userId deviceId ↔
        (userId, deviceId) = (user, DEFAULT_SINGLE_DEVICE_ID) := by
      intro userId deviceId
      simp [Migrates, key, and_comm, eq_comm]
    dsimp only
    rcases @findDeviceRow_insert db _ _ (doc.row user publicKey now) rfl rfl with
      ⟨row, held, -⟩ | ⟨absent, added, stored⟩
    · have present : db.findDeviceRow user DEFAULT_SINGLE_DEVICE_ID = some row := held
      refine ⟨0, db, ?_, fun userId deviceId => ?_⟩
      · simp only [ServerProgram.exec, Program.run_bind, Program.run_perform, ServerCommand.exec, present,
          Option.isSome_some, if_true, Program.run_pure]
      · rw [migrates, or_iff_left_of_imp]
        intro same
        obtain ⟨rfl, rfl⟩ := Prod.mk.inj same
        simp [present]
    · have missing : db.findDeviceRow user DEFAULT_SINGLE_DEVICE_ID = none := absent
      refine ⟨1, db.setDevices (db.userDevicePublicKeys ++ [doc.row user publicKey now]), ?_,
        fun userId deviceId => ?_⟩
      · have afterwards : ServerProgram.exec (.perform (.insertDevice (doc.row user publicKey now))) db =
            (.ok true, db.setDevices (db.userDevicePublicKeys ++ [doc.row user publicKey now])) := by
          simp only [ServerProgram.exec, Program.run_perform, added]
        have lookup : ServerProgram.exec (.perform (.findDevice user DEFAULT_SINGLE_DEVICE_ID)) db =
            (.ok none, db) := by
          simp only [ServerProgram.exec, Program.run_perform, ServerCommand.exec, missing]
        rw [ServerProgram.exec_bind_of_ok lookup]
        rw [Option.isSome_none, if_neg Bool.false_ne_true, ServerProgram.exec_bind_of_ok afterwards]
        rfl
      · rw [migrates]
        by_cases same : (userId, deviceId) = (user, DEFAULT_SINGLE_DEVICE_ID)
        · obtain ⟨rfl, rfl⟩ := Prod.mk.inj same
          have now : (db.setDevices (db.userDevicePublicKeys ++ [doc.row userId publicKey now])).findDeviceRow
              userId DEFAULT_SINGLE_DEVICE_ID = some (doc.row userId publicKey now) := stored
          simp [now]
        · have others := @findDeviceRow_other db _ _ _ (.insertDevice (doc.row user publicKey now))
            ⟨rfl, rfl⟩ _ _ same
          rw [added] at others
          simp [others, same]

theorem migrates_cons (doc : LegacyPublicKeyDocument) (rest : List LegacyPublicKeyDocument)
    (userId deviceId : String) : Migrates (doc :: rest) userId deviceId ↔
      Migrates [doc] userId deviceId ∨ Migrates rest userId deviceId := by
  simp [Migrates, and_or_left]

/-- After the migration the directory has the rows it had, and those that were missing. -/
theorem migrateLegacyUserPublicKeys_run (now : Nat) (legacy : List LegacyPublicKeyDocument)
    (db : Database) : ∃ migrated after,
      ServerProgram.exec (migrateLegacyUserPublicKeysIfNeeded now legacy) db = (.ok migrated, after) ∧
      ∀ userId deviceId, after.findDeviceRow userId deviceId ≠ none ↔
        db.findDeviceRow userId deviceId ≠ none ∨ Migrates legacy userId deviceId := by
  induction legacy generalizing db with
  | nil => exact ⟨0, db, rfl, fun userId deviceId => by simp [Migrates]⟩
  | cons doc rest ih =>
    obtain ⟨first, middle, ranFirst, rowsFirst⟩ := migrateLegacyDocument_run doc now db
    obtain ⟨more, after, ranRest, rowsRest⟩ := ih middle
    refine ⟨first + more, after, ?_, fun userId deviceId => ?_⟩
    · unfold migrateLegacyUserPublicKeysIfNeeded
      rw [ServerProgram.exec_bind_of_ok ranFirst, ServerProgram.exec_bind_of_ok ranRest]
      rfl
    · rw [rowsRest, rowsFirst, migrates_cons doc rest, or_assoc]

/-- The start of the service does not fail, and runs the migration. -/
theorem ensureUserPublicKeyIndexes_run (legacy : List LegacyPublicKeyDocument) (now : Nat) (db : Database) :
    ∃ after, ServerProgram.exec (ensureUserPublicKeyIndexes legacy now) db = (.ok (), after) ∧
      ∀ userId deviceId, after.findDeviceRow userId deviceId ≠ none ↔
        db.findDeviceRow userId deviceId ≠ none ∨ Migrates legacy userId deviceId := by
  obtain ⟨migrated, after, ran, rows⟩ := migrateLegacyUserPublicKeys_run now legacy db
  refine ⟨after, ?_, rows⟩
  unfold ensureUserPublicKeyIndexes
  rw [ServerProgram.exec_bind_of_ok ran]
  rfl

end Migration

end MessagingSystem.Source.Server

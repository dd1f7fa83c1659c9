import MessagingSystem.Source.Client.MessageHybrid
import MessagingSystem.Source.Client.PrivateKeyStorage
import MessagingSystem.Source.Server.DeviceEffects

/-!
# Rotation of the device key, and the receive path

`rotateUserKeypairOnServer` in its two parts: up to the response that registers
the new public key, and from there to the keyring row of the new private key.
Between the two the directory and the keyring differ. `peerDecryption` is what
`usePeerMessageDecryption` does with one message.
-/
namespace MessagingSystem.Source.Client
open Foundation Server

variable {PublicKey PrivateKey Seed : Type} (crypto : WebCrypto PublicKey PrivateKey Seed)

/-- A registered key pair whose private key is still to be stored. -/
structure PendingRotation (PrivateKey : Type) where
  privateKey : PrivateKey
  result : DevicePublicKey
  storagePassphrase : String

/-- The version a legacy private key is migrated to. -/
def migrationKeyVersion (items : List DevicePublicKey) : Nat :=
  match items.find? fun d => d.deviceId = Client.DEFAULT_SINGLE_DEVICE_ID with
  | some defaultRow => defaultRow.keyVersion
  | none => ((items.map fun d => d.keyVersion).max?).getD 0

/-- What one rotation draws. -/
structure RotationDraws (PrivateKey : Type) where
  pair : PrivateKey
  migration : WrapDraws
  uuid : String
  now : Nat

/-- `rotateUserKeypairOnServer` up to the response of `POST /users/me/devices`. -/
def rotateRegister (user : UserId) (storagePassphrase : String) (draws : RotationDraws PrivateKey)
    (storage : KeyStorage) (db : Database) :
    Except CryptoError (PendingRotation PrivateKey) × KeyStorage × Database :=
  match (ServerProgram.exec (findDevicePublicKeysByUserId user.val) db).1 with
  | .error e => (.error (.error e.message), storage, db)
  | .ok docs =>
      if docs.isEmpty then
        (.error (.error ("No encryption key is registered on the server yet. " ++
          "Register a key before rotating.")), storage, db)
      else
        match migrateLegacyPrivateKeyToKeyring crypto storage user.val
            (migrationKeyVersion (toDevicePublicKeysListResponse docs)) storagePassphrase
            draws.migration with
        | .error e => (.error e, storage, db)
        | .ok (_, migrated) =>
            let publicKeyB64 := exportPublicKeySpkiBase64 crypto (crypto.publicKeyOf draws.pair)
            let deviceId :=
              (getStoredDeviceId migrated user.val).getD Client.DEFAULT_SINGLE_DEVICE_ID
            match ServerProgram.exec (registerOrUpdateDevice user.val publicKeyB64 (some deviceId)
                none draws.uuid draws.now) db with
            | (.error e, db') => (.error (.error e.message), migrated, db')
            | (.ok outcome, db') =>
                (.ok ⟨draws.pair, toRegisterDeviceResponse outcome.document, storagePassphrase⟩,
                  migrated, db')

/-- The rest of `rotateUserKeypairOnServer`. -/
def rotateStore (userId : String) (pending : PendingRotation PrivateKey) (draws : WrapDraws)
    (storage : KeyStorage) : Except CryptoError KeyStorage := do
  let identified ← setStoredDeviceId storage userId pending.result.deviceId
  let pkcs8 ← base64ToArrayBuffer (exportPrivateKeyPkcs8Base64 crypto pending.privateKey)
  storeKeyringPrivateKeyPkcs8 crypto identified userId pending.result.keyVersion pkcs8
    pending.storagePassphrase (some pending.result.publicKey) draws

/-- The profile that it leaves, also when it throws: the device id is stored first. -/
def rotateStored (userId : String) (pending : PendingRotation PrivateKey) (draws : WrapDraws)
    (storage : KeyStorage) : KeyStorage :=
  match rotateStore crypto userId pending draws storage with
  | .ok stored => stored
  | .error _ => (setStoredDeviceId storage userId pending.result.deviceId).toOption.getD storage

/-- What the receive path dispatches for a message, or that loading the key threw. -/
inductive PeerDecryption where
  | plaintext (text : CodeUnits)
  | noLocalKey
  | noDeviceKeyEntry
  | cryptoFailed
  | rejected (e : CryptoError)
  deriving DecidableEq

/-- `!m.encryptedMessageKeys?.[deviceId]` is false. -/
def hasDeviceKeyEntry (encryptedMessageKeys : Record String) (deviceId : String) : Bool :=
  match readProperty encryptedMessageKeys deviceId with
  | .own wrapped => wrapped ≠ ""
  | .inherited => true
  | .absent => false

/-- `usePeerMessageDecryption` on one hybrid message. -/
def peerDecryption (storage : KeyStorage) (userId deviceScopedPassphrase : String)
    (message : HybridSendPayload) : PeerDecryption :=
  match loadMessagingEcdhPrivateKey crypto storage userId deviceScopedPassphrase with
  | .error e => .rejected e
  | .ok none => .noLocalKey
  | .ok (some pk) =>
      match getStoredDeviceId storage userId with
      | none => .noDeviceKeyEntry
      | some deviceId =>
          if hasDeviceKeyEntry message.encryptedMessageKeys deviceId then
            match decryptHybridMessageToUtf8 crypto message.body message.iv
                message.encryptedMessageKeys deviceId pk with
            | .ok text => .plaintext text
            | .error _ => .cryptoFailed
          else .noDeviceKeyEntry

section Rotation

variable {crypto} {storage storage' : KeyStorage} {db : Database} {deviceId : String}

theorem getStoredDeviceId_trimmed {userId : String}
    (stored : getStoredDeviceId storage userId = some deviceId) :
    EcmaText.trim deviceId = deviceId ∧ deviceId ≠ "" := by
  unfold getStoredDeviceId at stored
  split at stored
  · rename_i id read
    split at stored
    · rename_i nonempty
      obtain rfl := Option.some.inj stored
      obtain ⟨raw, -, rfl⟩ := Option.map_eq_some_iff.mp read
      exact ⟨EcmaText.trim_trim raw, nonempty⟩
    · cases stored
  · cases stored

/-- The device that a registration is for. -/
def currentDevice (storage : KeyStorage) (userId : String) : String :=
  (getStoredDeviceId storage userId).getD Client.DEFAULT_SINGLE_DEVICE_ID

theorem currentDevice_trimmed (storage : KeyStorage) (userId : String) :
    EcmaText.trim (currentDevice storage userId) = currentDevice storage userId ∧
      currentDevice storage userId ≠ "" := by
  unfold currentDevice
  cases held : getStoredDeviceId storage userId with
  | none => exact ⟨by decide, by decide⟩
  | some d => exact getStoredDeviceId_trimmed held

/-- A profile that rotation does not migrate: the keyring is in use, or there is
no legacy key. -/
def Migrated (storage : KeyStorage) (userId : String) : Prop :=
  listKeyringVersions storage userId ≠ [] ∨ OrderedMap.get storage.legacy userId = none

theorem Migrated.migrate {userId passphrase : String} {keyVersion : Nat} {draws : WrapDraws}
    (migrated : Migrated storage userId) :
    migrateLegacyPrivateKeyToKeyring crypto storage userId keyVersion passphrase draws =
      .ok (false, storage) := by
  unfold migrateLegacyPrivateKeyToKeyring
  split
  · rfl
  · rename_i empty
    rcases migrated with used | none
    · exact absurd (List.length_pos_of_ne_nil used) empty
    · rw [none]

/-- The version under which a rotation files the legacy key, if it does. -/
def migratedVersion (crypto : WebCrypto PublicKey PrivateKey Seed) (user : UserId)
    (storagePassphrase : String) (draws : RotationDraws PrivateKey) (storage : KeyStorage)
    (db : Database) : Option Nat :=
  match (ServerProgram.exec (findDevicePublicKeysByUserId user.val) db).1 with
  | .error _ => none
  | .ok docs =>
      let keyVersion := migrationKeyVersion (toDevicePublicKeysListResponse docs)
      if docs.isEmpty then none
      else
        match migrateLegacyPrivateKeyToKeyring crypto storage user.val keyVersion storagePassphrase
            draws.migration with
        | .ok (true, _) => some keyVersion
        | _ => none

/-- Up to the response a rotation fails without effect, or it migrates the
profile and registers the new key for the stored device. -/
theorem rotateRegister_cases (crypto : WebCrypto PublicKey PrivateKey Seed) (user : UserId)
    (storagePassphrase : String) (draws : RotationDraws PrivateKey) (storage : KeyStorage) (db : Database) :
    (∃ e, rotateRegister crypto user storagePassphrase draws storage db = (.error e, storage, db) ∧
      migratedVersion crypto user storagePassphrase draws storage db = none) ∨
    ∃ keyVersion done migrated,
      migrateLegacyPrivateKeyToKeyring crypto storage user.val keyVersion storagePassphrase
        draws.migration = .ok (done, migrated) ∧
      migratedVersion crypto user storagePassphrase draws storage db =
        (if done = true then some keyVersion else none) ∧
      (rotateRegister crypto user storagePassphrase draws storage db).2.1 = migrated ∧
      ∀ pending, (rotateRegister crypto user storagePassphrase draws storage db).1 = .ok pending →
        pending.privateKey = draws.pair ∧ pending.storagePassphrase = storagePassphrase ∧
        pending.result.deviceId = currentDevice storage user.val := by
  unfold rotateRegister migratedVersion
  rw [findDevicePublicKeysByUserId_exec]
  simp only
  split
  · exact .inl ⟨_, rfl, rfl⟩
  cases ran : migrateLegacyPrivateKeyToKeyring crypto storage user.val (migrationKeyVersion
      (toDevicePublicKeysListResponse ((db.userDevicePublicKeys.filter fun d =>
        d.userId = user.val).insertionSort fun a b => b.updatedAt ≤ a.updatedAt)))
      storagePassphrase draws.migration with
  | error e => exact .inl ⟨e, rfl, rfl⟩
  | ok outcome =>
    obtain ⟨done, migrated⟩ := outcome
    refine .inr ⟨_, done, migrated, ran, by cases done <;> rfl, ?_⟩
    have identity : currentDevice migrated user.val = currentDevice storage user.val := by
      unfold currentDevice getStoredDeviceId
      rw [(migrateLegacy_listed ran).1]
    have current : (getStoredDeviceId migrated user.val).getD Client.DEFAULT_SINGLE_DEVICE_ID =
      currentDevice storage user.val := identity
    obtain ⟨trimmed, nonempty⟩ := currentDevice_trimmed storage user.val
    simp only [current]
    cases registered : ServerProgram.exec (registerOrUpdateDevice user.val
        (exportPublicKeySpkiBase64 crypto (crypto.publicKeyOf draws.pair))
        (some (currentDevice storage user.val)) none draws.uuid draws.now) db with
    | mk answer db' =>
      cases answer with
      | error e => exact ⟨rfl, by simp⟩
      | ok outcome =>
        have device := registerOrUpdateDevice_deviceId user trimmed nonempty registered
        refine ⟨rfl, fun pending same => ?_⟩
        cases same
        exact ⟨rfl, rfl, device⟩

/-- The end of a rotation stores the private key under the registered version,
or it leaves the keys alone. -/
theorem rotateStored_cases (crypto : WebCrypto PublicKey PrivateKey Seed) (userId : String)
    (pending : PendingRotation PrivateKey) (draws : WrapDraws) (storage : KeyStorage) :
    ((rotateStore crypto userId pending draws storage).toOption = none ∧
      (rotateStored crypto userId pending draws storage).keyring = storage.keyring ∧
      (rotateStored crypto userId pending draws storage).legacy = storage.legacy) ∨
    ∃ identified, setStoredDeviceId storage userId pending.result.deviceId = .ok identified ∧
      rotateStore crypto userId pending draws storage =
        .ok (rotateStored crypto userId pending draws storage) ∧
      storeKeyringPrivateKeyPkcs8 crypto identified userId pending.result.keyVersion
        (crypto.exportPkcs8 pending.privateKey) pending.storagePassphrase
        (some pending.result.publicKey) draws = .ok (rotateStored crypto userId pending draws storage) := by
  unfold rotateStored rotateStore exportPrivateKeyPkcs8Base64
  cases identified : setStoredDeviceId storage userId pending.result.deviceId with
  | error e => exact .inl ⟨rfl, rfl, rfl⟩
  | ok after =>
    have keys := setStoredDeviceId_keys identified
    simp only [base64ToArrayBuffer_encode, bind, Except.bind]
    cases written : storeKeyringPrivateKeyPkcs8 crypto after userId pending.result.keyVersion
        (crypto.exportPkcs8 pending.privateKey) pending.storagePassphrase
        (some pending.result.publicKey) draws with
    | error e => exact .inl ⟨rfl, keys⟩
    | ok stored => exact .inr ⟨after, rfl, rfl, written⟩

theorem rotateStored_listed (crypto : WebCrypto PublicKey PrivateKey Seed) (userId : String)
    (pending : PendingRotation PrivateKey) (draws : WrapDraws) (storage : KeyStorage) (v : Nat) :
    v ∈ listKeyringVersions (rotateStored crypto userId pending draws storage) userId ↔
      v ∈ listKeyringVersions storage userId ∨
        (rotateStore crypto userId pending draws storage).toOption.map
          (fun _ => pending.result.keyVersion) = some v := by
  rcases rotateStored_cases crypto userId pending draws storage with
    ⟨failed, keyring, -⟩ | ⟨identified, written, stored, kept⟩
  · simp [failed, listKeyringVersions_congr keyring]
  · rw [(storeKeyring_listed kept).2.2 v,
      listKeyringVersions_congr (setStoredDeviceId_keys written).1, stored, or_comm]
    simp [Except.toOption, eq_comm]

theorem rotateStored_device (crypto : WebCrypto PublicKey PrivateKey Seed) (userId : String)
    {pending : PendingRotation PrivateKey} (draws : WrapDraws) (storage : KeyStorage)
    (trimmed : EcmaText.trim pending.result.deviceId = pending.result.deviceId)
    (nonempty : pending.result.deviceId ≠ "") :
    getStoredDeviceId (rotateStored crypto userId pending draws storage) userId =
      some pending.result.deviceId := by
  obtain ⟨after, written, -, -, device⟩ := @getStoredDeviceId_set storage userId
    pending.result.deviceId trimmed nonempty
  cases ran : rotateStore crypto userId pending draws storage with
  | error e =>
    unfold rotateStored
    rw [ran, written]
    exact device
  | ok stored =>
    rcases rotateStored_cases crypto userId pending draws storage with
      ⟨failed, -⟩ | ⟨identified, again, -, kept⟩
    · rw [ran] at failed
      cases failed
    · cases written.symm.trans again
      unfold getStoredDeviceId at device ⊢
      rw [(storeKeyring_listed kept).2.1]
      exact device

/-- A key of the profile then is the rotation's own, or it was there before. -/
theorem rotateStored_keys (ideal : crypto.Ideal) {userId passphrase : String}
    {pending : PendingRotation PrivateKey} (draws : WrapDraws) (storage : KeyStorage)
    (same : normalizePassphrase pending.storagePassphrase = normalizePassphrase passphrase)
    (place : Option Nat) (own : PrivateKey)
    (key : keyAt crypto (rotateStored crypto userId pending draws storage) userId passphrase place =
      some own) :
    keyAt crypto storage userId passphrase place = some own ∨
      place = some pending.result.keyVersion ∧ own = pending.privateKey := by
  rcases rotateStored_cases crypto userId pending draws storage with
    ⟨-, keyring, legacy⟩ | ⟨identified, written, -, kept⟩
  · rw [keyAt_congr crypto keyring legacy] at key
    exact .inl key
  · obtain ⟨keyring, legacy⟩ := setStoredDeviceId_keys written
    rw [← keyAt_congr crypto keyring legacy]
    cases place with
    | none =>
      unfold keyAt legacyKey at key ⊢
      rw [(storeKeyring_listed kept).1] at key
      exact .inl key
    | some v =>
      have held : heldKey crypto (rotateStored crypto userId pending draws storage) userId passphrase v =
        some own := key
      rw [storeKeyring_held ideal same kept v, ideal.import_exportPkcs8] at held
      split at held
      · rename_i here
        exact .inr ⟨congrArg some here, (Option.some.inj held).symm⟩
      · exact .inl held

end Rotation

section Receive

variable {crypto} {storage : KeyStorage} {userId passphrase deviceId : String}
variable {payload : HybridSendPayload} {hybrid : HybridDraws Seed} {text : CodeUnits}

/-- The receive path reads a message exactly when the private key that it loads
is the one the message was wrapped for. -/
theorem peerDecryption_iff (ideal : crypto.Ideal)
    (device : getStoredDeviceId storage userId = some deviceId)
    (encrypts : payload.Encrypts crypto hybrid text) {drawn : Seed} {recipient : PublicKey}
    (slot : payload.encryptedMessageKeys.get deviceId =
      some (crypto.sealKey drawn hybrid.messageKey.bytes recipient)) :
    peerDecryption crypto storage userId passphrase payload =
        .plaintext (TextCoding.decode (TextCoding.encode text)) ↔
      ∃ own, keyAt crypto storage userId passphrase (listKeyringVersions storage userId).max? =
          some own ∧ crypto.publicKeyOf own = recipient := by
  obtain ⟨trimmed, -⟩ := getStoredDeviceId_trimmed device
  have entry : hasDeviceKeyEntry payload.encryptedMessageKeys deviceId = true := by
    have read := readProperty_eq_own.mpr slot
    have nonblank := EcmaText.isNonBlank_iff.mp
      (ideal.seal_nonblank drawn hybrid.messageKey.bytes recipient)
    rw [hasDeviceKeyEntry, read]
    refine decide_eq_true fun empty => nonblank ?_
    rw [empty, EcmaText.trim_empty]
  simp only [← loadMessagingEcdhPrivateKey_iff]
  unfold peerDecryption
  cases loaded : loadMessagingEcdhPrivateKey crypto storage userId passphrase with
  | error e => simp
  | ok found =>
    cases found with
    | none => simp
    | some own =>
      simp only [device, entry, if_true, Except.ok.injEq, Option.some.injEq, exists_eq_left']
      rw [← trimmed] at slot
      by_cases matching : crypto.publicKeyOf own = recipient
      · subst matching
        simp [decryptHybrid_own ideal encrypts slot]
      · have closed := decryptHybrid_other ideal own slot matching
        refine iff_of_false (fun read => ?_) matching
        split at read
        · rename_i text decrypted
          exact closed text decrypted
        · cases read

end Receive

end MessagingSystem.Source.Client

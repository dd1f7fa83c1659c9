import MessagingSystem.Foundation.Requests
import MessagingSystem.Source.Client.KeypairMaintenance

/-!
# The bootstrap of the sender's key pair

`ensureMessagingKeypair.ts`: `ensureUserKeypairReadyForMessaging` as a program
over the IndexedDB transactions of the browser profile and the MongoDB commands
of the requests it makes. `evaluateDeviceSyncBootstrapState` and
`upgradeAccessTokenWithDeviceBinding` catch their errors and write to neither
store, so they are left out, and so is what only goes to Redux.
-/
namespace MessagingSystem.Source.Client
open Foundation Server

/-- The browser profile and the service's database. -/
structure BootState where
  storage : KeyStorage
  db : Database

/-- The transactions of `privateKeyStorage.ts` that the bootstrap makes. -/
inductive ProfileCommand : Type → Type where
  | getStoredDeviceId (userId : String) : ProfileCommand (Option String)
  | setStoredDeviceId (userId deviceId : String) : ProfileCommand (Except CryptoError Unit)
  | listKeyringVersions (userId : String) : ProfileCommand (List Nat)
  | getKeyringPublicSpkiOptional (userId : String) (keyVersion : Nat) : ProfileCommand (Option String)
  | storeKeyringPrivateKeyPkcs8 (userId : String) (keyVersion : Nat) (pkcs8Der : List UInt8)
      (passphrase : String) (publicKeySpkiB64 : Option String) (draws : WrapDraws) :
      ProfileCommand (Except CryptoError Unit)

inductive BootCommand (β : Type) : Type where
  | profile (c : ProfileCommand β)
  | service (c : ServerCommand β)

abbrev BootProgram := Program BootCommand CryptoError

/-- `getKeyringPublicSpkiOptional`. -/
def getKeyringPublicSpkiOptional (storage : KeyStorage) (userId : String) (keyVersion : Nat) :
    Option String :=
  match (OrderedMap.get storage.keyring (userId, keyVersion)).bind fun row => row.publicKeySpkiB64 with
  | some spki => if spki ≠ "" then some spki else none
  | none => none

/-- A write that throws leaves the profile as it is. -/
def writeProfile (storage : KeyStorage) (written : Except CryptoError KeyStorage) :
    Except CryptoError Unit × KeyStorage :=
  match written with
  | .ok after => (.ok (), after)
  | .error e => (.error e, storage)

/-- What `crypto.randomUUID()` draws as the id of this device. -/
structure DrawnDeviceId where
  val : String
  trimmed : EcmaText.trim val = val
  nonempty : val ≠ ""
  short : EcmaText.codeUnitLength val ≤ 128
  notDefault : val ≠ Client.DEFAULT_SINGLE_DEVICE_ID

/-- A passphrase that `normalizePassphrase` accepts, such as
`getOrCreateDeviceScopedPassphrase` answers. -/
structure AcceptedPassphrase where
  val : String
  accepted : ∃ pass, normalizePassphrase val = .ok pass

/-- What one call draws, and how often the attempts to register fail on the way. -/
structure EnsureDraws (PrivateKey : Type) where
  pair : PrivateKey
  clientDeviceId : DrawnDeviceId
  wrap : WrapDraws
  uuid : String := ""
  now : Nat
  failedAttempts : List Nat := []

section Programs

variable {PublicKey PrivateKey Seed : Type} (crypto : WebCrypto PublicKey PrivateKey Seed)

def ProfileCommand.exec {β : Type} : ProfileCommand β → KeyStorage → β × KeyStorage
  | .getStoredDeviceId userId, storage => (Client.getStoredDeviceId storage userId, storage)
  | .setStoredDeviceId userId deviceId, storage =>
      writeProfile storage (Client.setStoredDeviceId storage userId deviceId)
  | .listKeyringVersions userId, storage => (Client.listKeyringVersions storage userId, storage)
  | .getKeyringPublicSpkiOptional userId keyVersion, storage =>
      (Client.getKeyringPublicSpkiOptional storage userId keyVersion, storage)
  | .storeKeyringPrivateKeyPkcs8 userId keyVersion pkcs8Der passphrase publicKeySpkiB64 draws, storage =>
      writeProfile storage (Client.storeKeyringPrivateKeyPkcs8 crypto storage userId keyVersion pkcs8Der
        passphrase publicKeySpkiB64 draws)

def BootCommand.exec {β : Type} : BootCommand β → BootState → β × BootState
  | .profile c, s => ((c.exec crypto s.storage).1, { s with storage := (c.exec crypto s.storage).2 })
  | .service c, s => ((c.exec s.db).1, { s with db := (c.exec s.db).2 })

/-- The uninterrupted run. -/
def BootProgram.exec {α : Type} (p : BootProgram α) (s : BootState) : Except CryptoError α × BootState :=
  p.run (BootCommand.exec crypto) s

def BootProgram.profile {α : Type} (c : ProfileCommand α) : BootProgram α := .perform (.profile c)

/-- A transaction that may throw. -/
def BootProgram.write (c : ProfileCommand (Except CryptoError Unit)) : BootProgram Unit := do
  let written ← BootProgram.profile c
  .done written

/-- A request, its error thrown with the error's message. -/
def BootProgram.request {α : Type} (p : ServerProgram α) : BootProgram α :=
  p.hoist BootCommand.service fun e => .error e.message

/-- `listUserDevicePublicKeys('me')`; the service knows every signed-in user, so
the branch for status 404 is not taken. -/
def listUserDevicePublicKeys (user : UserId) : BootProgram (List DevicePublicKey) := do
  let docs ← BootProgram.request (findDevicePublicKeysByUserId user.val)
  pure (toDevicePublicKeysListResponse docs)

/-- The thunk `registerDevice`: `POST /users/me/devices`, again after transient failures. -/
def registerDevice (user : UserId) (publicKey deviceId : String) (draws : EnsureDraws PrivateKey) :
    BootProgram DevicePublicKey := do
  let outcome ← Program.retrying (BootProgram.request (registerOrUpdateDevice user.val publicKey
    (some deviceId) none draws.uuid draws.now)) draws.failedAttempts
  pure (toRegisterDeviceResponse outcome.document)

/-- The keyring has a key: its row on the service is compared, or registered again. -/
def alignKeyring (user : UserId) (draws : EnsureDraws PrivateKey) (deviceList : List DevicePublicKey)
    (maxV : Nat) : BootProgram Unit := do
  let localSpkiRaw ← BootProgram.profile (.getKeyringPublicSpkiOptional user.val maxV)
  let localSpki := EcmaText.trim (localSpkiRaw.getD "")
  .require (localSpki ≠ "") (.error
    "Your device has keyring data but no public key metadata. Restore from a backup.")
  let storedDeviceId ← BootProgram.profile (.getStoredDeviceId user.val)
  match storedDeviceId.bind fun id => deviceList.find? fun i => i.deviceId = id with
  | none => do
      let result ← registerDevice user localSpki
        (storedDeviceId.getD Client.DEFAULT_SINGLE_DEVICE_ID) draws
      BootProgram.write (.setStoredDeviceId user.val result.deviceId)
  | some entry =>
      .require (localSpki = EcmaText.trim entry.publicKey) (.error ("Your local encryption key does " ++
        "not match the server. Restore from a backup on this device."))

/-- A registered key pair: the device id is stored, then the private key. -/
def storeGenerated (user : UserId) (passphrase : AcceptedPassphrase) (draws : EnsureDraws PrivateKey)
    (result : DevicePublicKey) : BootProgram Unit := do
  BootProgram.write (.setStoredDeviceId user.val result.deviceId)
  let pkcs8 ← .done (base64ToArrayBuffer (exportPrivateKeyPkcs8Base64 crypto draws.pair))
  BootProgram.write (.storeKeyringPrivateKeyPkcs8 user.val result.keyVersion pkcs8 passphrase.val
    (some result.publicKey) draws.wrap)

/-- The keyring is empty: a pair is generated and registered, unless this device
is registered already. -/
def generateKeypair (user : UserId) (passphrase : AcceptedPassphrase) (draws : EnsureDraws PrivateKey)
    (persistedDeviceId : Option String) (deviceList : List DevicePublicKey) : BootProgram Unit := do
  let persistedTrim := EcmaText.trim (persistedDeviceId.getD "")
  let localDeviceMatchesServer := persistedTrim ≠ "" ∧
    persistedTrim ∈ deviceList.map fun i => EcmaText.trim i.deviceId
  .require (¬ (deviceList ≠ [] ∧ localDeviceMatchesServer)) (.error ("An encryption key is " ++
    "registered for this account, but this browser has no key material. Restore from a backup."))
  let publicKeyB64 := exportPublicKeySpkiBase64 crypto (crypto.publicKeyOf draws.pair)
  let result ← registerDevice user publicKeyB64 draws.clientDeviceId.val draws
  storeGenerated crypto user passphrase draws result

/-- The bootstrap once it has read the versions of the keyring. -/
def ensureListed (user : UserId) (passphrase : AcceptedPassphrase) (draws : EnsureDraws PrivateKey)
    (persistedDeviceId : Option String) (versions : List Nat) : BootProgram Unit := do
  let deviceList ← listUserDevicePublicKeys user
  match versions.max? with
  | some maxV => alignKeyring user draws deviceList maxV
  | none => generateKeypair crypto user passphrase draws persistedDeviceId deviceList

def ensureUserKeypairReadyForMessaging (user : UserId) (passphrase : AcceptedPassphrase)
    (draws : EnsureDraws PrivateKey) : BootProgram Unit := do
  let persistedDeviceId ← BootProgram.profile (.getStoredDeviceId user.val)
  let versions ← BootProgram.profile (.listKeyringVersions user.val)
  ensureListed crypto user passphrase draws persistedDeviceId versions

/-- `rotateUserKeypairOnServer`, without interruption. -/
def rotateUserKeypairOnServer (user : UserId) (storagePassphrase : String)
    (draws : RotationDraws PrivateKey) (wrap : WrapDraws) (s : BootState) :
    Except CryptoError Unit × BootState :=
  match rotateRegister crypto user storagePassphrase draws s.storage s.db with
  | (.error e, storage, db) => (.error e, ⟨storage, db⟩)
  | (.ok pending, storage, db) =>
      match rotateStore crypto user.val pending wrap storage with
      | .ok stored => (.ok (), ⟨stored, db⟩)
      -- the device id is stored before the key
      | .error e => (.error e,
          ⟨(setStoredDeviceId storage user.val pending.result.deviceId).toOption.getD storage, db⟩)

end Programs

end MessagingSystem.Source.Client

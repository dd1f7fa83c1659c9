import MessagingSystem.Source.Client.EnsureEffects

/-!
# Two bootstraps at once

Two runs of the key pair bootstrap in one browser, one IndexedDB transaction or
MongoDB command a step; each run may fail or be cut off before any of them. A
run that generates a pair stores the device id first and the private key after
it, and `keepsTogether` is what keeps the two from coming apart.
-/
namespace MessagingSystem.Protocol
open Foundation Source Source.Server Source.Client

variable {PublicKey PrivateKey Seed : Type} (crypto : WebCrypto PublicKey PrivateKey Seed)
  (user : UserId) (passphrase : AcceptedPassphrase)

abbrev BootPool (PrivateKey : Type) := Pool BootCommand CryptoError Unit BootState (EnsureDraws PrivateKey)

abbrev BootEvent (PrivateKey : Type) := PoolEvent (EnsureDraws PrivateKey) CryptoError

abbrev BootTransition (PrivateKey : Type) := Transition (BootPool PrivateKey) (BootEvent PrivateKey)

/-- The calls of the bootstrap; any command may fail. -/
def bootCalls : Calls BootCommand CryptoError Unit BootState (EnsureDraws PrivateKey) where
  program := ensureUserKeypairReadyForMessaging crypto user passphrase
  exec := BootCommand.exec crypto
  mayFail _ := True

/-- The stored device id is registered with a public key whose private key is the
active entry of the keyring. -/
def Working (s : BootState) : Prop :=
  ∃ deviceId key v own, getStoredDeviceId s.storage user.val = some deviceId ∧
    EcmaText.codeUnitLength deviceId ≤ 128 ∧ s.db.storedKey user.val deviceId = some key ∧
    (listKeyringVersions s.storage user.val).max? = some v ∧
    heldKey crypto s.storage user.val passphrase.val v = some own ∧
    activeSpki s.storage user.val = some key.publicKey ∧
    key.publicKey = exportPublicKeySpkiBase64 crypto (crypto.publicKeyOf own)

/-- A recoverable state whose active SPKI belongs to the active private key. -/
structure Restartable (s : BootState) : Prop where
  recoverable : Recoverable user s
  matching : ∀ v, (listKeyringVersions s.storage user.val).max? = some v →
    ∃ own, heldKey crypto s.storage user.val passphrase.val v = some own ∧
      activeSpki s.storage user.val = some (exportPublicKeySpkiBase64 crypto (crypto.publicKeyOf own))

/-- The id a call has drawn is in use nowhere. -/
def UnusedId (s : BootState) (draws : EnsureDraws PrivateKey) : Prop :=
  ¬ Listed s.db user.val draws.clientDeviceId.val ∧
    getStoredDeviceId s.storage user.val ≠ some draws.clientDeviceId.val

/-- Two runs from a restartable state; no further run begins. -/
def bootMachine : Machine (BootPool PrivateKey) (BootEvent PrivateKey) where
  init s := Restartable crypto user passphrase s.store ∧ ∃ a b : EnsureDraws PrivateKey,
    s.calls = [(a, ensureUserKeypairReadyForMessaging crypto user passphrase a),
      (b, ensureUserKeypairReadyForMessaging crypto user passphrase b)] ∧
    a.clientDeviceId.val ≠ b.clientDeviceId.val ∧ UnusedId user s.store a ∧ UnusedId user s.store b
  step s event t := (bootCalls crypto user passphrase).Step s event t ∧ ∀ draws, event ≠ .takeUp draws

/-- The run is about to store a private key. -/
def aboutToStore : BootProgram Unit → Bool
  | .command (.profile (.storeKeyringPrivateKeyPkcs8 ..)) _ => true
  | _ => false

/-- The run is about to store its private key, and the stored device id is its own. -/
def identified (s : BootState) (entry : EnsureDraws PrivateKey × BootProgram Unit) : Bool :=
  aboutToStore entry.2 &&
    decide (getStoredDeviceId s.storage user.val = some entry.1.clientDeviceId.val)

/-- A run is not cut off while it is about to store the key of the stored device;
and a key is stored only while some run is about to store that one. -/
def keepsTogether (t : BootTransition PrivateKey) : Bool :=
  match t.label with
  | .takeUp _ => true
  | .abort index _ => (t.source.calls[index]?).all fun entry => !identified user t.source.store entry
  | .advance index => (t.source.calls[index]?).all fun entry =>
      !aboutToStore entry.2 || t.source.calls.any (identified user t.source.store)

end MessagingSystem.Protocol
